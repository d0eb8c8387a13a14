import Airgap.Proofs.Mnemonic.Seed
import Mathlib.Data.List.Forall2

/-!
# Sloppy typing

* `Typed`: a way to type English words, with letters of any case and width, blanks of any kind between
  the words and around them, and invisible characters anywhere.
* `Typeable`: characters that decomposition and folding spell one by one, so that the runs of a text are
  spelled one by one (`fields_fold_nfkd`).
* `words_of_typed`: a phrase that is typed so has exactly the words.
-/

namespace Airgap.Mnemonic

open Text (Runs combiningClass decompose fields foldMap isBlank nfkd)

/-! ## Ways to type -/

/-- The form of a letter that is as wide as an ideograph. -/
def fullWidth (c : Char) : Char := Char.ofNat (c.toNat + 0xFEE0)

/-- The ways to type a letter: in lower or upper case, of either width. -/
def letterForms (c : Char) : List Char := [c, c.toUpper, fullWidth c, fullWidth c.toUpper]

/-- The second text is the first word, each letter in one of its forms. -/
def TypedWord (w r : List Char) : Prop := List.Forall₂ (fun c d => d ∈ letterForms c) w r

/-- The second text is the first with invisible characters put in, anywhere and any number of them. -/
inductive Speckled : List Char → List Char → Prop
  | nil : Speckled [] []
  | keep {c : Char} {cs ds : List Char} (h : Speckled cs ds) : Speckled (c :: cs) (c :: ds)
  | speck {c : Char} {cs ds : List Char} (hc : isInvisible c = true) (h : Speckled cs ds) :
      Speckled cs (c :: ds)

/-- A way to type words: without its invisible characters, the runs of the text are the typed words. -/
def Typed (ws : List String) (t : String) : Prop :=
  ∃ plain rs, Speckled plain t.toList ∧ Runs plain rs ∧
    List.Forall₂ TypedWord (ws.map String.toList) rs

theorem Speckled.visible_eq {cs ds : List Char} (h : Speckled cs ds) : visible ds = visible cs := by
  induction h with
  | nil => rfl
  | keep _ ih => rw [visible, visible, List.filter_cons, List.filter_cons, ← visible, ← visible, ih]
  | speck hc _ ih => rw [visible, List.filter_cons, hc, ← ih]; rfl

/-- Every text is its visible characters with the others put in. -/
theorem speckled_visible (cs : List Char) : Speckled (visible cs) cs := by
  induction cs with
  | nil => exact .nil
  | cons c cs ih =>
    rw [visible, List.filter_cons]
    cases hc : isInvisible c with
    | true => exact .speck hc ih
    | false => exact .keep ih

/-! ## Characters that are spelled one by one -/

/-- A visible character without marks that is spelled as a blank or as other characters, but not as
both. -/
structure Typeable (c : Char) : Prop where
  isInvisible_eq : isInvisible c = false
  combiningClass_eq : ∀ x ∈ decompose c, combiningClass x = 0
  spelled_ne_nil : Text.fold (decompose c) ≠ []
  isBlank_eq : ∀ x ∈ Text.fold (decompose c), isBlank x = isBlank c

theorem typeable_of_isBlank {c : Char} (hc : isBlank c = true) : Typeable c := by
  obtain ⟨hvisible, hne, hparts⟩ := Text.of_isBlank hc
  have hself : Text.fold (decompose c) = decompose c :=
    Text.flatMap_eq_self fun x hx => (hparts x hx).2.2
  refine ⟨hvisible, fun x hx => (hparts x hx).2.1, ?_, fun x hx => ?_⟩
  · rwa [hself]
  · rw [hself] at hx
    rw [(hparts x hx).1, hc]

/-- Whether a character whose decomposition is `e` types the letter `c`. -/
def typesLetter (c d e : Char) : Bool :=
  !isInvisible d && !isBlank d && combiningClass e == 0 && foldMap.apply e == [c]

theorem typeable_of_typesLetter {c d e : Char} (htypes : typesLetter c d e = true)
    (hd : decompose d = [e]) (hc : isBlank c = false) :
    Typeable d ∧ Text.fold (decompose d) = [c] := by
  simp only [typesLetter, Bool.and_eq_true, Bool.not_eq_true', beq_iff_eq] at htypes
  obtain ⟨⟨⟨hvisible, hblank⟩, hclass⟩, hfold⟩ := htypes
  have hspelled : Text.fold (decompose d) = [c] := by
    rw [hd, Text.fold, List.flatMap_singleton, hfold]
  refine ⟨⟨hvisible, ?_, ?_, ?_⟩, hspelled⟩
  · rw [hd]
    exact List.forall_mem_singleton.mpr hclass
  · rw [hspelled]
    exact List.cons_ne_nil c []
  · rw [hspelled, hblank]
    exact List.forall_mem_singleton.mpr hc

/-- Whether a code point is a Latin letter without diacritics. -/
def isLatin (n : ℕ) : Bool := (0x41 ≤ n && n ≤ 0x5A) || (0x61 ≤ n && n ≤ 0x7A)

theorem fullWidth_decompositionTables : (Text.decompositionTables.all fun t => t.all fun e =>
    !isLatin (e.1 - 0xFEE0) || e.2 == [e.1 - 0xFEE0]) = true := by decide +kernel

theorem decomposable_fullWidth : ((List.range 0x80).all fun n =>
    !isLatin n || Text.decomposable.testBit (n + 0xFEE0)) = true := by
  set_option maxRecDepth 20000 in decide

theorem isLatin_iff {n : ℕ} : isLatin n = true ↔ 0x41 ≤ n ∧ n ≤ 0x5A ∨ 0x61 ≤ n ∧ n ≤ 0x7A := by
  simp only [isLatin, Bool.or_eq_true, Bool.and_eq_true, decide_eq_true_eq]

/-- A full-width letter decomposes to the ordinary one. -/
theorem decompose_fullWidth {c : Char} (hc : isLatin c.toNat = true) :
    decompose (fullWidth c) = [c] := by
  have hrange := isLatin_iff.mp hc
  have htoNat : (fullWidth c).toNat = c.toNat + 0xFEE0 := by
    have hvalid : (c.toNat + 0xFEE0).isValidChar := .inr ⟨by omega, by omega⟩
    rw [fullWidth, Char.ofNat, dif_pos hvalid]
    rfl
  rcases Text.decompose_cases (fullWidth c) with hself | ⟨-, hhigh, -⟩ | ⟨ns, hlookup, hlisted⟩
  · -- full-width letters are listed
    have hbit := List.all_eq_true.mp decomposable_fullWidth c.toNat (List.mem_range.mpr (by omega))
    rw [hc, ← htoNat, Text.testBit_decomposable hself] at hbit
    exact nomatch hbit
  · omega
  · obtain ⟨t, ht, hmem⟩ := Text.mem_of_lookup hlookup
    have hall := List.all_eq_true.mp fullWidth_decompositionTables t ht
    have hentry := List.all_eq_true.mp hall _ hmem
    rw [htoNat, Nat.add_sub_cancel, hc, Bool.not_true, Bool.false_or, beq_iff_eq] at hentry
    have hns : ns = [c.toNat] := hentry
    rw [hlisted, hns, List.map_singleton, Char.ofNat_toNat]

theorem typesLetter_letters : ((List.range' 97 26).all fun n =>
    [Char.ofNat n, (Char.ofNat n).toUpper].all fun e => isLatin e.toNat &&
      typesLetter (Char.ofNat n) e e && typesLetter (Char.ofNat n) (fullWidth e) e) = true := by
  decide

/-- Every form of a letter is spelled as the letter. -/
theorem of_mem_letterForms {c d : Char} (hlow : 97 ≤ c.toNat) (hhigh : c.toNat ≤ 122)
    (hd : d ∈ letterForms c) : Typeable d ∧ Text.fold (decompose d) = [c] := by
  have hletter := List.all_eq_true.mp typesLetter_letters c.toNat
    (List.mem_range'_1.mpr ⟨hlow, by omega⟩)
  rw [Char.ofNat_toNat] at hletter
  have hc : isBlank c = false := (settled_letter hlow hhigh).isBlank_eq
  have hnarrow {e : Char} (he : e ∈ [c, c.toUpper]) : Typeable e ∧ Text.fold (decompose e) = [c] := by
    have htypes := List.all_eq_true.mp hletter e he
    rw [Bool.and_eq_true, Bool.and_eq_true] at htypes
    have hrange := isLatin_iff.mp htypes.1.1
    have hself : decompose e = [e] := by rw [decompose, if_pos (by omega)]
    exact typeable_of_typesLetter htypes.1.2 hself hc
  have hwide {e : Char} (he : e ∈ [c, c.toUpper]) :
      Typeable (fullWidth e) ∧ Text.fold (decompose (fullWidth e)) = [c] := by
    have htypes := List.all_eq_true.mp hletter e he
    rw [Bool.and_eq_true, Bool.and_eq_true] at htypes
    exact typeable_of_typesLetter htypes.2 (decompose_fullWidth htypes.1.1) hc
  simp only [letterForms, List.mem_cons, List.not_mem_nil, or_false] at hd
  rcases hd with heq | heq | heq | heq <;> rw [heq]
  · exact hnarrow List.mem_cons_self
  · exact hnarrow (List.mem_cons_of_mem _ List.mem_cons_self)
  · exact hwide List.mem_cons_self
  · exact hwide (List.mem_cons_of_mem _ List.mem_cons_self)

/-- Characters without marks are not reordered. -/
theorem fold_nfkd_eq_flatMap {cs : List Char} (h : ∀ c ∈ cs, Typeable c) :
    Text.fold (nfkd cs) = cs.flatMap fun c => Text.fold (decompose c) := by
  have horder : Text.InOrder (cs.flatMap decompose) := by
    refine Text.inOrder_of_starters fun x hx => ?_
    obtain ⟨c, hc, hx⟩ := List.mem_flatMap.mp hx
    exact (h c hc).combiningClass_eq x hx
  rw [nfkd, horder.reorder_eq, Text.fold, List.flatMap_assoc]
  rfl

/-- **The runs of a typeable text are spelled one by one.** -/
theorem fields_fold_nfkd {cs : List Char} {rs : List (List Char)} (hruns : Runs cs rs)
    (h : ∀ c ∈ cs, Typeable c) :
    fields (Text.fold (nfkd cs)) = rs.map (·.flatMap fun c => Text.fold (decompose c)) := by
  rw [fold_nfkd_eq_flatMap h]
  exact (hruns.flatMap (fun c hc => (h c hc).spelled_ne_nil) fun c hc => (h c hc).isBlank_eq).fields_eq

/-! ## Typed words -/

theorem TypedWord.spelled_eq {w r : List Char} (h : TypedWord w r)
    (hw : ∀ c ∈ w, 97 ≤ c.toNat ∧ c.toNat ≤ 122) :
    (∀ d ∈ r, Typeable d) ∧ r.flatMap (fun d => Text.fold (decompose d)) = w := by
  induction h with
  | nil => exact ⟨List.forall_mem_nil _, rfl⟩
  | cons hd _ ih =>
    obtain ⟨⟨hlow, hhigh⟩, hw⟩ := List.forall_mem_cons.mp hw
    obtain ⟨htypeable, hspelled⟩ := of_mem_letterForms hlow hhigh hd
    obtain ⟨hrest, hrestSpelled⟩ := ih hw
    refine ⟨List.forall_mem_cons.mpr ⟨htypeable, hrest⟩, ?_⟩
    rw [List.flatMap_cons, hspelled, hrestSpelled, List.singleton_append]

theorem spelled_words_eq {ws rs : List (List Char)} (h : List.Forall₂ TypedWord ws rs)
    (hws : ∀ w ∈ ws, ∀ c ∈ w, 97 ≤ c.toNat ∧ c.toNat ≤ 122) :
    (∀ r ∈ rs, ∀ d ∈ r, Typeable d) ∧
      rs.map (·.flatMap fun d => Text.fold (decompose d)) = ws := by
  induction h with
  | nil => exact ⟨List.forall_mem_nil _, rfl⟩
  | cons hr _ ih =>
    obtain ⟨hw, hws⟩ := List.forall_mem_cons.mp hws
    obtain ⟨htypeable, hspelled⟩ := hr.spelled_eq hw
    obtain ⟨hrest, hrestSpelled⟩ := ih hws
    refine ⟨List.forall_mem_cons.mpr ⟨htypeable, hrest⟩, ?_⟩
    rw [List.map_cons, hspelled, hrestSpelled]

variable {ws : List String} {t : String}

/-- The spelling of typed words is the words with single spaces. -/
theorem IsEnglish.fields_typed (henglish : IsEnglish ws) (h : Typed ws t) :
    fields (normalPhrase t.toList) = ws.map String.toList := by
  obtain ⟨plain, rs, hspecks, hruns, hwords⟩ := h
  obtain ⟨hletters, hspelled⟩ := spelled_words_eq hwords henglish.letter
  have htypeable : ∀ c ∈ plain, Typeable c := by
    intro c hc
    cases hblank : isBlank c with
    | true => exact typeable_of_isBlank hblank
    | false =>
      obtain ⟨r, hr, hc⟩ := hruns.exists_mem hc hblank
      exact hletters r hr c hc
  have hvisible : visible t.toList = plain :=
    hspecks.visible_eq.trans (visible_eq_self fun c hc => (htypeable c hc).isInvisible_eq)
  rw [fields_normalPhrase, hvisible, fields_fold_nfkd hruns htypeable, hspelled]

/-- **Sloppy typing is forgiven.** However English words are typed, the mnemonic of the phrase has exactly
these words, in their order. -/
theorem words_of_typed (henglish : IsEnglish ws) (hne : ws ≠ []) (h : Typed ws t) (scheme : Scheme) :
    (ofPhrase t scheme).words = ws := by
  have hfields := henglish.fields_typed h
  have hnormal : normalPhrase t.toList ≠ [] := by
    intro hempty
    rw [hempty] at hfields
    exact hne (List.map_eq_nil_iff.mp hfields.symm)
  have hsplit : splitPhrase t = ws := splitPhrase_eq ((phraseWords_of_ne_nil hnormal).trans hfields)
  rw [ofPhrase, ofWords, hsplit]
  exact henglish.map_normalizeWord

/-- Two words in capitals, of full width and with invisible characters, after an em space and parted by an
ideographic space and a line feed. -/
theorem words_of_typed_zoo :
    let t := "\u2003\uFF3A\u200BoO\u3000\n\u00AD\uFF41b\u2060Le\u200D"
    IsEnglish ["zoo", "able"] ∧ Typed ["zoo", "able"] t ∧
      (ofPhrase t .bip39).words = ["zoo", "able"] := by
  intro t
  have hzoo : WordList.english.word 2047 = "zoo" := by
    set_option maxRecDepth 20000 in decide
  have hable : WordList.english.word 2 = "able" := by decide
  have henglish : IsEnglish ["zoo", "able"] :=
    List.forall_mem_cons.mpr ⟨⟨2047, hzoo⟩, List.forall_mem_singleton.mpr ⟨2, hable⟩⟩
  have htyped : Typed ["zoo", "able"] t :=
    ⟨visible t.toList, [['\uFF3A', 'o', 'O'], ['\uFF41', 'b', 'L', 'e']], speckled_visible _,
      Text.runs_iff.mpr (by decide), by unfold TypedWord; decide⟩
  exact ⟨henglish, htyped, words_of_typed henglish (List.cons_ne_nil _ _) htyped .bip39⟩

end Airgap.Mnemonic
