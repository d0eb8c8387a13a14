import Airgap.Proofs.Mnemonic.Spelling
import Airgap.Proofs.Text.Lower
import Airgap.Proofs.Text.Runs

/-!
# The form that Electrum hashes

* `Bare`: characters that are visible, decomposed, lowered and no marks; `bare_of_mem_stripMarks`: after the
  passes over the characters there are no others.
* `Closed`: text without a blank between two ideographs, with `closeUp_eq_self_iff` and, since closing up
  moves no blank next to another, `closeUp_closeUp`.
* `ElectrumSpelled`: bare, single-spaced and closed text; `electrumForm_eq_self_iff` says that the form
  leaves alone just such text.
* `electrumNormalize_final`: the form is such text, and forming it again changes nothing.
-/

namespace Airgap.Mnemonic

open Text (Apart Lowered SingleSpaced combiningClass decompose fields isBlank joinWords lowerMap nfkd)

variable {cs : List Char}

/-! ## Single characters -/

/-- A visible character that is its own decomposition and its own lower case, and no mark. -/
structure Bare (c : Char) : Prop extends Lowered c where
  combiningClass_eq : combiningClass c = 0

/-- Whether a code point is such a character. -/
def isBare (n : ℕ) : Bool := Text.isLowered n && !Text.marks.testBit n

theorem bare_of_isBare {n : ℕ} (h : isBare n = true) : Bare (Char.ofNat n) := by
  rw [isBare, Bool.and_eq_true, Bool.not_eq_true'] at h
  refine ⟨Text.lowered_of_isLowered h.1, Text.combiningClass_eq_zero ?_⟩
  rw [Text.toNat_of_isLowered h.1]
  exact h.2

theorem isBare_space : isBare 0x20 = true := by
  set_option maxRecDepth 20000 in decide

theorem bare_space : Bare ' ' := bare_of_isBare isBare_space

/-- Decomposing, lowering and stripping leaves bare characters. -/
theorem bare_of_mem_stripMarks {x : Char} (hx : x ∈ stripMarks (Text.lower (nfkd (visible cs)))) :
    Bare x := by
  obtain ⟨hx, hclass⟩ := List.mem_filter.mp hx
  obtain ⟨c, hc, hx⟩ := Text.mem_nfkd.mp hx
  have hlowered : Lowered c :=
    Text.lowered_of_mem_lower (fun _ hd => isInvisible_of_mem_nfkd hd) (Text.decomposed_nfkd _).atoms c hc
  rw [hlowered.decompose_eq, List.mem_singleton] at hx
  subst hx
  exact ⟨hlowered, beq_iff_eq.mp hclass⟩

theorem nfkd_of_bare (h : ∀ c ∈ cs, Bare c) : nfkd cs = cs :=
  Text.Decomposed.nfkd_eq <| Text.decomposed_of_starters (fun c hc => (h c hc).decompose_eq)
    fun c hc => (h c hc).combiningClass_eq

/-- Bare text passes unchanged. -/
theorem stripMarks_lower_nfkd (h : ∀ c ∈ cs, Bare c) :
    stripMarks (Text.lower (nfkd (visible cs))) = cs := by
  have hvisible : visible cs = cs := visible_eq_self fun c hc => (h c hc).isInvisible_eq
  have hlower : Text.lower cs = cs := Text.lower_eq_self fun c hc => (h c hc).lower_eq
  rw [hvisible, nfkd_of_bare h, hlower, stripMarks, nfkd_of_bare h]
  exact List.filter_eq_self.mpr fun c hc => beq_iff_eq.mpr (h c hc).combiningClass_eq

/-! ## Blanks between ideographs -/

/-- Text in which no blank stands between two ideographs. -/
def Closed (cs : List Char) : Prop := ∀ a s b, [a, s, b] <:+: cs → isBlank s = true →
  isIdeograph a = false ∨ isIdeograph b = false

theorem closeUp_sublist (before : Option Char) (cs : List Char) : (closeUp before cs).Sublist cs := by
  induction cs generalizing before with
  | nil => exact .slnil
  | cons c cs ih =>
    rw [closeUp]
    split
    · exact (ih _).cons c
    · exact (ih _).cons_cons c

theorem closeUp_of_not_isBlank {c : Char} (hc : isBlank c = false) (before : Option Char)
    (cs : List Char) : closeUp before (c :: cs) = c :: closeUp (some c) cs := by
  rw [closeUp, hc, Bool.false_and, Bool.false_and, if_neg Bool.false_ne_true]

/-- The last character has nothing behind it and stays. -/
theorem getLast?_closeUp (before : Option Char) (cs : List Char) :
    (closeUp before cs).getLast? = cs.getLast? := by
  induction cs generalizing before with
  | nil => rfl
  | cons c cs ih =>
    cases cs with
    | nil =>
      rw [closeUp, List.head?_nil, facesIdeograph, Bool.and_false, if_neg Bool.false_ne_true, closeUp]
    | cons d ds =>
      have hrest := ih (some c)
      have hne : closeUp (some c) (d :: ds) ≠ [] := by
        intro hempty
        rw [hempty, List.getLast?_nil, eq_comm, List.getLast?_eq_none_iff] at hrest
        exact nomatch hrest
      rw [closeUp, List.getLast?_cons_cons]
      split
      · exact hrest
      · rw [List.getLast?_cons_of_ne_nil hne, hrest]

theorem head?_closeUp (h : ∀ c ∈ cs.head?, isBlank c = false) (before : Option Char) :
    (closeUp before cs).head? = cs.head? := by
  cases cs with
  | nil => rfl
  | cons c cs => rw [closeUp_of_not_isBlank (h c rfl), List.head?_cons, List.head?_cons]

/-- What follows a blank is none. -/
theorem head?_of_isBlank {c : Char} (hapart : Apart (c :: cs)) (hc : isBlank c = true) :
    ∀ d ∈ cs.head?, isBlank d = false :=
  fun d hd => ((List.isChain_cons.mp hapart).1 d hd).resolve_left (ne_false_of_eq_true hc)

theorem Apart.closeUp (h : Apart cs) (before : Option Char) : Apart (closeUp before cs) := by
  induction cs generalizing before with
  | nil => exact List.isChain_nil
  | cons c cs ih =>
    have hrest := ih (List.isChain_cons.mp h).2 (some c)
    rw [Mnemonic.closeUp]
    split
    · exact hrest
    · refine List.isChain_cons.mpr ⟨fun d hd => ?_, hrest⟩
      cases hc : isBlank c with
      | false => exact .inl rfl
      | true =>
        have hnext := head?_of_isBlank h hc
        rw [head?_closeUp hnext] at hd
        exact .inr (hnext d hd)

/-- Single spaces stay so. -/
theorem singleSpaced_closeUp (h : SingleSpaced cs) : SingleSpaced (closeUp none cs) where
  head c hc := h.head c (by rwa [head?_closeUp h.head] at hc)
  last c hc := h.last c (by rwa [getLast?_closeUp] at hc)
  space c hc := h.space c ((closeUp_sublist none cs).subset hc)
  apart := Apart.closeUp h.apart none

/-- **Closing up once is enough** where no two blanks meet: the neighbours of a blank stay. -/
theorem closeUp_closeUp (h : Apart cs) (before : Option Char) :
    closeUp before (closeUp before cs) = closeUp before cs := by
  induction cs generalizing before with
  | nil => rfl
  | cons c cs ih =>
    have hrest := ih (List.isChain_cons.mp h).2 (some c)
    cases hc : isBlank c with
    | false => rw [closeUp_of_not_isBlank hc, closeUp_of_not_isBlank hc, hrest]
    | true =>
      have hnext := head?_of_isBlank h hc
      have hhead := head?_closeUp hnext (some c)
      cases hopen : facesIdeograph before && facesIdeograph cs.head? with
      | false =>
        rw [closeUp, hc, Bool.true_and, hopen, if_neg Bool.false_ne_true, closeUp, hc, Bool.true_and,
          hhead, hopen, if_neg Bool.false_ne_true, hrest]
      | true =>
        rw [closeUp, hc, Bool.true_and, hopen, if_pos rfl]
        -- the text goes on with an ideograph, which looks at nothing before it
        cases cs with
        | nil => rfl
        | cons d ds =>
          have hd : isBlank d = false := hnext d rfl
          rw [closeUp_of_not_isBlank hd] at hrest ⊢
          rw [closeUp_of_not_isBlank hd] at hrest ⊢
          exact hrest

theorem of_closeUp_cons_eq {before : Option Char} {c : Char} (h : closeUp before (c :: cs) = c :: cs) :
    (isBlank c && facesIdeograph before && facesIdeograph cs.head?) = false ∧
      closeUp (some c) cs = cs := by
  rw [closeUp] at h
  split at h
  · have hle := (closeUp_sublist (some c) cs).length_le
    rw [h, List.length_cons] at hle
    omega
  · exact ⟨eq_false_of_ne_true ‹_›, (List.cons.inj h).2⟩

theorem closeUp_eq_of_append {before : Option Char} {a : Char} {ds : List Char}
    (h : closeUp before (cs ++ a :: ds) = cs ++ a :: ds) : closeUp (some a) ds = ds := by
  induction cs generalizing before with
  | nil => exact (of_closeUp_cons_eq h).2
  | cons c cs ih => exact ih (of_closeUp_cons_eq h).2

theorem closeUp_eq_self_of_closed {before : Option Char} (h : Closed (before.toList ++ cs)) :
    closeUp before cs = cs := by
  induction cs generalizing before with
  | nil => rfl
  | cons c cs ih =>
    have hrest : closeUp (some c) cs = cs := by
      refine ih fun a s b hpart => h a s b (hpart.trans ?_)
      exact (List.suffix_append before.toList (c :: cs)).isInfix
    rw [closeUp, hrest, if_neg]
    intro hopen
    simp only [Bool.and_eq_true] at hopen
    obtain ⟨⟨hc, hbefore⟩, hafter⟩ := hopen
    cases before with
    | none => exact nomatch hbefore
    | some a =>
      cases cs with
      | nil => exact nomatch hafter
      | cons b ds =>
        rcases h a c b ⟨[], ds, rfl⟩ hc with hideograph | hideograph
        · exact Bool.false_ne_true (hideograph.symm.trans hbefore)
        · exact Bool.false_ne_true (hideograph.symm.trans hafter)

/-- Closing up leaves closed text alone, and no other. -/
theorem closeUp_eq_self_iff : closeUp none cs = cs ↔ Closed cs := by
  refine ⟨?_, fun h => closeUp_eq_self_of_closed h⟩
  rintro h a s b ⟨before, after, rfl⟩ hs
  rw [List.append_assoc, List.cons_append] at h
  obtain ⟨hopen, -⟩ := of_closeUp_cons_eq (closeUp_eq_of_append h)
  rw [hs, Bool.true_and, Bool.and_eq_false_iff] at hopen
  exact hopen

/-! ## The form -/

/-- Bare text with single spaces, none of them between two ideographs. -/
structure ElectrumSpelled (cs : List Char) : Prop where
  bare : ∀ c ∈ cs, Bare c
  spaced : SingleSpaced cs
  closed : Closed cs

theorem ElectrumSpelled.electrumForm_eq (h : ElectrumSpelled cs) : electrumForm cs = cs := by
  rw [electrumForm, stripMarks_lower_nfkd h.bare, h.spaced.joinWords_fields]
  exact closeUp_eq_self_iff.mpr h.closed

theorem electrumSpelled_electrumForm (cs : List Char) : ElectrumSpelled (electrumForm cs) := by
  have hspaced : SingleSpaced (joinWords (fields (stripMarks (Text.lower (nfkd (visible cs)))))) :=
    Text.singleSpaced_joinWords (fun _ hw => (Text.of_mem_fields hw).1)
      fun _ hw => (Text.of_mem_fields hw).2
  refine ⟨fun c hc => ?_, singleSpaced_closeUp hspaced, ?_⟩
  · rcases Text.eq_or_mem_of_mem_intercalate ((closeUp_sublist none _).subset hc) with rfl | ⟨w, hw, hc⟩
    · exact bare_space
    · exact bare_of_mem_stripMarks ((Text.isInfix_of_mem_fields hw).subset hc)
  · exact closeUp_eq_self_iff.mp (closeUp_closeUp hspaced.apart none)

/-- Electrum's form leaves such text alone, and no other. -/
theorem electrumForm_eq_self_iff : electrumForm cs = cs ↔ ElectrumSpelled cs := by
  refine ⟨fun h => ?_, ElectrumSpelled.electrumForm_eq⟩
  rw [← h]
  exact electrumSpelled_electrumForm cs

theorem toList_electrumNormalize (t : String) :
    (electrumNormalize t).toList = electrumForm t.toList := String.toList_ofList

theorem electrumNormalize_eq_self_iff {t : String} :
    electrumNormalize t = t ↔ ElectrumSpelled t.toList := by
  rw [← electrumForm_eq_self_iff, ← toList_electrumNormalize, String.toList_inj]

/-- **The form that Electrum hashes is final.** It has no blank at its ends, no two blanks in a row, no
blank between two ideographs and no mark, and forming it again changes nothing; the texts in this form are
just those that are left alone. -/
theorem electrumNormalize_final (t : String) :
    (∀ c ∈ (electrumNormalize t).toList.head?, isBlank c = false) ∧
      (∀ c ∈ (electrumNormalize t).toList.getLast?, isBlank c = false) ∧
      ((electrumNormalize t).toList.IsChain fun a b => isBlank a = false ∨ isBlank b = false) ∧
      (∀ a s b, [a, s, b] <:+: (electrumNormalize t).toList → isBlank s = true →
        isIdeograph a = false ∨ isIdeograph b = false) ∧
      (∀ c ∈ (electrumNormalize t).toList, combiningClass c = 0) ∧
      electrumNormalize (electrumNormalize t) = electrumNormalize t ∧
      (electrumNormalize t = t ↔ ElectrumSpelled t.toList) := by
  have hspelled : ElectrumSpelled (electrumNormalize t).toList := by
    rw [toList_electrumNormalize]
    exact electrumSpelled_electrumForm t.toList
  have hfinal := electrumNormalize_eq_self_iff.mpr hspelled
  obtain ⟨hbare, ⟨hhead, hlast, -, hapart⟩, hclosed⟩ := hspelled
  exact ⟨hhead, hlast, hapart, hclosed, fun c hc => (hbare c hc).combiningClass_eq, hfinal,
    electrumNormalize_eq_self_iff⟩

/-- Two ideographs with a space between them, and a letter after a space. -/
theorem electrumNormalize_final_ideographs :
    let t := "\u4E00 \u4E8C a"
    let r := "\u4E00\u4E8C a"
    electrumNormalize t = r ∧ electrumNormalize r = r ∧ isBlank '\u4E00' = false ∧ isBlank 'a' = false ∧
      combiningClass 'a' = 0 ∧ ['\u4E8C', ' ', 'a'] <:+: r.toList ∧ isBlank ' ' = true ∧
      (isIdeograph '\u4E8C' = false ∨ isIdeograph 'a' = false) := by
  intro t r
  have hcodes : (t.toList.all fun c => isBare c.toNat) = true := by decide +kernel
  have hbare : ∀ c ∈ t.toList, Bare c := by
    intro c hc
    have h := bare_of_isBare (List.all_eq_true.mp hcodes c hc)
    rwa [Char.ofNat_toNat] at h
  have hr : electrumNormalize t = r := by
    rw [electrumNormalize, onString, electrumForm, stripMarks_lower_nfkd hbare]
    decide
  have hfinal := electrumNormalize_final t
  rw [hr] at hfinal
  obtain ⟨hhead, hlast, -, hclosed, hclass, hagain, -⟩ := hfinal
  have hpart : ['\u4E8C', ' ', 'a'] <:+: r.toList := by decide
  exact ⟨hr, hagain, hhead '\u4E00' (by decide), hlast 'a' (by decide), hclass 'a' (by decide), hpart, rfl,
    hclosed '\u4E8C' ' ' 'a' hpart rfl⟩

end Airgap.Mnemonic
