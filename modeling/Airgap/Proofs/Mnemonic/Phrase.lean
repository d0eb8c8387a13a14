import Airgap.Mnemonic.Basic
import Airgap.Proofs.Mnemonic.Spelling
import Airgap.Proofs.Text.Blank
import Airgap.Proofs.Text.Runs

/-!
# The spelling of a phrase, and its words

* `Clean`: text that is visible, decomposed and folded. A word is left alone if it is clean and has no
  blanks at its ends, a phrase if it is clean and single-spaced (`normalWord_eq_self_iff`,
  `normalPhrase_eq_self_iff`).
* `spelling_final`: both spellings are final, and so are the words of a typed phrase.
* `splitPhrase_runs_iff`: a typed phrase is split into the runs of its spelling, unless nothing but
  invisible characters stands between its blanks.
-/

namespace Airgap.Mnemonic

open Text (Decomposed Runs Settled SingleSpaced decompose fields foldMap isBlank joinWords nfkd strip)

variable {cs : List Char} {ws : List (List Char)}

/-! ## Clean text -/

/-- Text that is visible, decomposed and folded. -/
structure Clean (cs : List Char) : Prop where
  seen : ∀ c ∈ cs, isInvisible c = false
  decomposed : Decomposed cs
  folded : ∀ c ∈ cs, foldMap.apply c = [c]

theorem clean_fold (hseen : ∀ c ∈ cs, isInvisible c = false) (h : Decomposed cs) :
    Clean (Text.fold cs) := by
  refine ⟨fun x hx => ?_, h.fold, fun x hx => ?_⟩
  · rcases Text.mem_fold_cases h.atoms hx with ⟨hx, -⟩ | hx
    · exact hseen x hx
    · exact hx.isInvisible_eq
  · rcases Text.mem_fold_cases h.atoms hx with ⟨-, hx⟩ | hx
    · exact hx
    · exact hx.fold_eq

theorem clean_fold_nfkd (cs : List Char) : Clean (Text.fold (nfkd (visible cs))) :=
  clean_fold (fun _ hx => isInvisible_of_mem_nfkd hx) (Text.decomposed_nfkd _)

theorem Clean.fold_nfkd_visible (h : Clean cs) : Text.fold (nfkd (visible cs)) = cs := by
  rw [visible_eq_self h.seen, h.decomposed.nfkd_eq]
  exact Text.flatMap_eq_self h.folded

theorem Clean.of_isInfix {ds : List Char} (h : Clean cs) (hds : ds <:+: cs) : Clean ds :=
  ⟨fun c hc => h.seen c (hds.subset hc), h.decomposed.of_isInfix hds,
    fun c hc => h.folded c (hds.subset hc)⟩

theorem clean_of_settled (h : ∀ c ∈ cs, Settled c) : Clean cs :=
  ⟨fun c hc => (h c hc).isInvisible_eq,
    Text.decomposed_of_starters (fun c hc => (h c hc).decompose_eq) fun c hc => (h c hc).combiningClass_eq,
    fun c hc => (h c hc).fold_eq⟩

theorem clean_space : Clean [' '] := by
  obtain ⟨hseen, -, hparts⟩ := Text.of_isBlank (c := ' ') rfl
  have hself : decompose ' ' = [' '] := rfl
  rw [hself] at hparts
  obtain ⟨-, hclass, hfold⟩ := hparts ' ' List.mem_cons_self
  refine ⟨List.forall_mem_singleton.mpr hseen, ?_, List.forall_mem_singleton.mpr hfold⟩
  exact Text.decomposed_of_starters (List.forall_mem_singleton.mpr hself)
    (List.forall_mem_singleton.mpr hclass)

theorem Clean.append_space {ds : List Char} (hcs : Clean cs) (hds : Clean ds) :
    Clean (cs ++ ' ' :: ds) := by
  obtain ⟨hseen, hdecomposed, hfolded⟩ := clean_space
  have hall {p : Char → Prop} (hp : ∀ c ∈ cs, p c) (hspace : ∀ c ∈ [' '], p c) (hq : ∀ c ∈ ds, p c) :
      ∀ c ∈ cs ++ ' ' :: ds, p c :=
    List.forall_mem_append.mpr ⟨hp, List.forall_mem_cons.mpr ⟨hspace ' ' List.mem_cons_self, hq⟩⟩
  exact ⟨hall hcs.seen hseen hds.seen,
    ⟨hall hcs.decomposed.atoms hdecomposed.atoms hds.decomposed.atoms,
      hcs.decomposed.inOrder.append_cons hds.decomposed.inOrder rfl⟩,
    hall hcs.folded hfolded hds.folded⟩

/-- Clean words may be joined. -/
theorem clean_joinWords (h : ∀ w ∈ ws, Clean w) : Clean (joinWords ws) := by
  induction ws with
  | nil => exact clean_space.of_isInfix List.nil_infix
  | cons w ws ih =>
    obtain ⟨hw, hws⟩ := List.forall_mem_cons.mp h
    cases ws with
    | nil =>
      rw [joinWords, List.intercalate_singleton]
      exact hw
    | cons v vs =>
      rw [Text.joinWords_cons_cons]
      exact hw.append_space (ih hws)

/-! ## Words -/

theorem clean_normalWord (cs : List Char) : Clean (normalWord cs) :=
  clean_fold (fun _ hx => isInvisible_of_mem_nfkd ((Text.strip_isInfix _).subset hx))
    (decomposed_strip cs)

theorem Clean.normalWord_eq (h : Clean cs) (hstrip : strip cs = cs) : normalWord cs = cs := by
  rw [normalWord, visible_eq_self h.seen, h.decomposed.nfkd_eq, hstrip]
  exact Text.flatMap_eq_self h.folded

/-- A word has its spelling if it is clean and has no blanks at its ends. -/
theorem normalWord_eq_self_iff : normalWord cs = cs ↔ Clean cs ∧ strip cs = cs := by
  refine ⟨fun h => ?_, fun h => h.1.normalWord_eq h.2⟩
  rw [← h]
  exact ⟨clean_normalWord cs, strip_normalWord cs⟩

/-! ## Phrases -/

theorem clean_normalPhrase (cs : List Char) : Clean (normalPhrase cs) :=
  clean_joinWords fun _ hw => (clean_fold_nfkd cs).of_isInfix (Text.isInfix_of_mem_fields hw)

theorem singleSpaced_normalPhrase (cs : List Char) : SingleSpaced (normalPhrase cs) :=
  Text.singleSpaced_joinWords (fun _ hw => (Text.of_mem_fields hw).1)
    fun _ hw => (Text.of_mem_fields hw).2

/-- A phrase has its spelling if it is clean and has single spaces. -/
theorem normalPhrase_eq_self_iff : normalPhrase cs = cs ↔ Clean cs ∧ SingleSpaced cs := by
  refine ⟨fun h => ?_, fun h => ?_⟩
  · rw [← h]
    exact ⟨clean_normalPhrase cs, singleSpaced_normalPhrase cs⟩
  · rw [normalPhrase, h.1.fold_nfkd_visible, h.2.joinWords_fields]

/-- The words of a spelled phrase are the words that were found when it was spelled. -/
theorem fields_normalPhrase (cs : List Char) :
    fields (normalPhrase cs) = fields (Text.fold (nfkd (visible cs))) :=
  Text.fields_joinWords (fun _ hw => (Text.of_mem_fields hw).1) fun _ hw => (Text.of_mem_fields hw).2

/-- Nothing is left of a phrase of blanks and invisible characters. -/
theorem normalPhrase_eq_nil_iff :
    normalPhrase cs = [] ↔ ∀ c ∈ cs, isBlank c = true ∨ isInvisible c = true := by
  have hvisible : (∀ c ∈ visible cs, isBlank c = true) ↔
      ∀ c ∈ cs, isBlank c = true ∨ isInvisible c = true := by
    simp only [visible, List.mem_filter, Bool.not_eq_true', and_imp]
    exact forall₂_congr fun c _ => by cases isInvisible c <;> simp
  rw [← hvisible, ← List.all_eq_true, ← Text.all_isBlank_fold_nfkd, List.all_eq_true,
    ← Text.fields_eq_nil_iff, ← fields_normalPhrase, (singleSpaced_normalPhrase cs).fields_eq_nil_iff]

/-! ## The words of a phrase -/

/-- A phrase whose spelling is not empty is split into the fields of its spelling. -/
theorem phraseWords_of_ne_nil (h : normalPhrase cs ≠ []) :
    phraseWords cs = fields (normalPhrase cs) := by
  have hspaced := singleSpaced_normalPhrase cs
  have hstrip : strip cs ≠ [] := by
    intro hempty
    exact h (normalPhrase_eq_nil_iff.mpr fun c hc => .inl (Text.strip_eq_nil_iff.mp hempty c hc))
  rw [phraseWords, List.isEmpty_eq_false_iff.mpr hstrip, if_neg Bool.false_ne_true]
  conv_lhs => rw [← hspaced.joinWords_fields]
  refine Text.splitWhere_intercalate rfl (hspaced.fields_eq_nil_iff.not.mpr h) fun w hw c hc => ?_
  rw [beq_eq_false_iff_ne]
  rintro rfl
  exact Bool.false_ne_true (((Text.of_mem_fields hw).2 ' ' hc).symm.trans rfl)

/-- Text that is not blank, though nothing is seen between its blanks. -/
structure Unseen (cs : List Char) : Prop where
  unseen : ∀ c ∈ cs, isBlank c = true ∨ isInvisible c = true
  mark : ∃ c ∈ cs, isInvisible c = true

theorem unseen_iff : Unseen cs ↔
    (cs.all fun c => isBlank c || isInvisible c) = true ∧ cs.any isInvisible = true := by
  simp only [List.all_eq_true, List.any_eq_true, Bool.or_eq_true]
  exact ⟨fun h => ⟨h.unseen, h.mark⟩, fun h => ⟨h.1, h.2⟩⟩

instance : Decidable (Unseen cs) := decidable_of_iff _ unseen_iff.symm

theorem Unseen.normalPhrase_eq (h : Unseen cs) : normalPhrase cs = [] :=
  normalPhrase_eq_nil_iff.mpr h.unseen

/-- Such text counts as one empty word. -/
theorem Unseen.phraseWords_eq (h : Unseen cs) : phraseWords cs = [[]] := by
  obtain ⟨c, hc, hinvisible⟩ := h.mark
  have hstrip : strip cs ≠ [] := by
    intro hempty
    have hseen := (Text.of_isBlank (Text.strip_eq_nil_iff.mp hempty c hc)).1
    rw [hinvisible] at hseen
    exact nomatch hseen
  rw [phraseWords, List.isEmpty_eq_false_iff.mpr hstrip, if_neg Bool.false_ne_true, h.normalPhrase_eq]
  rfl

theorem phraseWords_of_blanks (h : ∀ c ∈ cs, isBlank c = true) : phraseWords cs = [] := by
  rw [phraseWords, Text.strip_eq_nil_iff.mpr h]
  rfl

/-- Any other phrase is split into the fields of its spelling. -/
theorem phraseWords_eq_fields (h : ¬ Unseen cs) : phraseWords cs = fields (normalPhrase cs) := by
  by_cases hempty : normalPhrase cs = []
  · have hunseen := normalPhrase_eq_nil_iff.mp hempty
    have hblank : ∀ c ∈ cs, isBlank c = true := fun c hc =>
      (hunseen c hc).resolve_right fun hinvisible => h ⟨hunseen, c, hc, hinvisible⟩
    rw [phraseWords_of_blanks hblank, hempty]
    rfl
  · exact phraseWords_of_ne_nil hempty

theorem Unseen.not_runs (h : Unseen cs) : ¬ Runs (normalPhrase cs) (phraseWords cs) := by
  intro hruns
  have hnone := hruns.fields_eq
  rw [h.normalPhrase_eq, h.phraseWords_eq] at hnone
  exact nomatch hnone

theorem map_toList_splitPhrase (t : String) :
    (splitPhrase t).map String.toList = phraseWords t.toList := by
  rw [splitPhrase, List.map_map]
  exact (List.map_congr_left fun _ _ => String.toList_ofList).trans (List.map_id _)

theorem splitPhrase_eq {t : String} {ws : List String}
    (h : phraseWords t.toList = ws.map String.toList) : splitPhrase t = ws := by
  rw [splitPhrase, h, List.map_map]
  exact (List.map_congr_left fun _ _ => String.ofList_toList).trans (List.map_id ws)

theorem toList_normalizePhrase (t : String) : (normalizePhrase t).toList = normalPhrase t.toList :=
  String.toList_ofList

/-- **A phrase is split into the runs of its spelling** exactly if it is not unseen. Then no word is
empty or holds a blank, and there is no word exactly if the spelling is empty. Unseen text, whose spelling
is empty, counts as one empty word. -/
theorem splitPhrase_runs_iff (t : String) :
    (Runs (normalizePhrase t).toList ((splitPhrase t).map String.toList) ↔ ¬ Unseen t.toList) ∧
      (¬ Unseen t.toList → (∀ w ∈ splitPhrase t, w ≠ "" ∧ ∀ c ∈ w.toList, isBlank c = false) ∧
        (splitPhrase t = [] ↔ normalizePhrase t = "")) ∧
      (Unseen t.toList → normalizePhrase t = "" ∧ splitPhrase t = [""]) := by
  rw [map_toList_splitPhrase, toList_normalizePhrase]
  refine ⟨⟨fun hruns hunseen => hunseen.not_runs hruns, fun hseen => ?_⟩, fun hseen => ⟨?_, ?_⟩,
    fun hunseen => ⟨?_, ?_⟩⟩
  · exact Text.runs_iff.mpr (phraseWords_eq_fields hseen).symm
  · intro w hw
    have hmem : w.toList ∈ fields (normalPhrase t.toList) := by
      rw [← phraseWords_eq_fields hseen, ← map_toList_splitPhrase]
      exact List.mem_map_of_mem hw
    obtain ⟨hne, hblank⟩ := Text.of_mem_fields hmem
    exact ⟨fun hempty => hne (String.toList_eq_nil_iff.mpr hempty), hblank⟩
  · rw [← List.map_eq_nil_iff (f := String.toList), map_toList_splitPhrase, phraseWords_eq_fields hseen,
      (singleSpaced_normalPhrase _).fields_eq_nil_iff, ← String.toList_eq_nil_iff,
      toList_normalizePhrase]
  · rw [← String.toList_eq_nil_iff, toList_normalizePhrase, hunseen.normalPhrase_eq]
  · rw [splitPhrase, hunseen.phraseWords_eq]
    rfl

/-- A phrase with an invisible character in a word and another alone, and a text of such characters. -/
theorem splitPhrase_runs_iff_zoo :
    let t := "Zoo\u00A0a\u200Bble \u200B"
    let u := " \u200B\u00AD"
    (¬ Unseen t.toList ∧ splitPhrase t = ["zoo", "able"] ∧
      Runs (normalizePhrase t).toList [['z', 'o', 'o'], ['a', 'b', 'l', 'e']] ∧
      ∀ c ∈ "able".toList, isBlank c = false) ∧
    Unseen u.toList ∧ normalizePhrase u = "" ∧ splitPhrase u = [""] := by
  intro t u
  have hseen : ¬ Unseen t.toList := by decide
  have hunseen : Unseen u.toList := by decide
  have hwords : splitPhrase t = ["zoo", "able"] := by decide
  obtain ⟨hruns, hword, -⟩ := splitPhrase_runs_iff t
  have hruns := hruns.mpr hseen
  rw [hwords] at hruns
  refine ⟨⟨hseen, hwords, hruns, ?_⟩, hunseen, (splitPhrase_runs_iff u).2.2 hunseen⟩
  exact ((hword hseen).1 "able" (by rw [hwords]; decide)).2

/-- A lone zero-width space is a word without a run. -/
theorem exists_word_without_run : splitPhrase "\u200B" = [""] ∧ normalizePhrase "\u200B" = "" ∧
    ¬ Runs (normalizePhrase "\u200B").toList ((splitPhrase "\u200B").map String.toList) := by
  have hunseen : Unseen "\u200B".toList := by decide
  refine ⟨by decide, by decide, ?_⟩
  rw [map_toList_splitPhrase, toList_normalizePhrase]
  exact hunseen.not_runs

/-! ## Both spellings are final -/

/-- The words of a phrase are parts of its spelling without blanks. -/
theorem normalWord_of_mem_phraseWords {w : List Char} (hw : w ∈ phraseWords cs) : normalWord w = w := by
  rw [phraseWords] at hw
  split at hw
  · exact nomatch hw
  · have hpart : w <:+: normalPhrase cs := by
      have h : w <:+: [' '].intercalate (Text.splitWhere (· == ' ') (normalPhrase cs)) :=
        Text.isInfix_intercalate hw
      rwa [Text.intercalate_splitWhere] at h
    have hblank : ∀ c ∈ w, isBlank c = false := by
      intro c hc
      by_contra hblank
      have hspace := (singleSpaced_normalPhrase cs).space c (hpart.subset hc)
        (eq_true_of_ne_false hblank)
      have hne := Text.not_of_mem_splitWhere hw hc
      rw [hspace] at hne
      exact nomatch hne
    refine ((clean_normalPhrase cs).of_isInfix hpart).normalWord_eq ?_
    exact Text.strip_eq_self (fun c hc => hblank c (List.mem_of_mem_head? hc))
      fun c hc => hblank c (List.mem_of_getLast? hc)

theorem normalizePhrase_normalizePhrase (t : String) :
    normalizePhrase (normalizePhrase t) = normalizePhrase t := by
  have h := normalPhrase_eq_self_iff.mpr
    ⟨clean_normalPhrase t.toList, singleSpaced_normalPhrase t.toList⟩
  rw [normalizePhrase, onString, onString, String.toList_ofList, h]

theorem normalizeWord_of_mem_splitPhrase {t w : String} (hw : w ∈ splitPhrase t) :
    normalizeWord w = w := by
  have hmem : w.toList ∈ phraseWords t.toList := by
    rw [← map_toList_splitPhrase]
    exact List.mem_map_of_mem hw
  rw [normalizeWord, onString, normalWord_of_mem_phraseWords hmem, String.ofList_toList]

theorem onString_eq_self_iff {f : List Char → List Char} {t : String} :
    onString f t = t ↔ f t.toList = t.toList := by
  rw [onString, ← String.toList_inj, String.toList_ofList]

/-- **Both spellings are final.** A second round changes neither a word nor a phrase, whether the words
were typed one by one or in a phrase, and so a mnemonic holds the words as they were split. The texts that
are left alone are the clean ones, without blanks at the ends of a word and with single spaces in a
phrase. -/
theorem spelling_final (t : String) (ws : List String) :
    normalizeWord (normalizeWord t) = normalizeWord t ∧
      normalizePhrase (normalizePhrase t) = normalizePhrase t ∧
      (∀ w ∈ splitPhrase t, normalizeWord w = w) ∧
      (∀ w ∈ ws.map normalizeWord, normalizeWord w = w) ∧
      (∀ scheme, (ofPhrase t scheme).words = splitPhrase t ∧
        (ofWords (ws.map normalizeWord) scheme).words = ws.map normalizeWord) ∧
      (normalizeWord t = t ↔ Clean t.toList ∧ strip t.toList = t.toList) ∧
      (normalizePhrase t = t ↔ Clean t.toList ∧ SingleSpaced t.toList) := by
  have hsplit : ∀ w ∈ splitPhrase t, normalizeWord w = w := fun _ hw => normalizeWord_of_mem_splitPhrase hw
  have hlist : ∀ w ∈ ws.map normalizeWord, normalizeWord w = w := by
    intro w hw
    obtain ⟨v, -, rfl⟩ := List.mem_map.mp hw
    exact normalizeWord_normalizeWord v
  have hsame {vs : List String} (h : ∀ v ∈ vs, normalizeWord v = v) : vs.map normalizeWord = vs :=
    (List.map_congr_left h).trans (List.map_id vs)
  exact ⟨normalizeWord_normalizeWord t, normalizePhrase_normalizePhrase t, hsplit, hlist,
    fun _ => ⟨hsame hsplit, hsame hlist⟩, onString_eq_self_iff.trans normalWord_eq_self_iff,
    onString_eq_self_iff.trans normalPhrase_eq_self_iff⟩

/-- A phrase with a capital, an ordinal sign for a letter, a space that does not break and an invisible
character, and a list with such a word. -/
theorem spelling_final_zoo :
    let t := "Zoo\u00A0 \u00AAble\u200B"
    splitPhrase t = ["zoo", "able"] ∧ normalizeWord "zoo" = "zoo" ∧
      [" \u00AABLE"].map normalizeWord = ["able"] ∧ normalizeWord "able" = "able" := by
  intro t
  have hwords : splitPhrase t = ["zoo", "able"] := by decide
  have hlist : [" \u00AABLE"].map normalizeWord = ["able"] := by decide
  obtain ⟨-, -, hsplit, hfinal, -⟩ := spelling_final t [" \u00AABLE"]
  rw [hwords] at hsplit
  rw [hlist] at hfinal
  exact ⟨hwords, hsplit _ List.mem_cons_self, hlist, hfinal _ List.mem_cons_self⟩

end Airgap.Mnemonic
