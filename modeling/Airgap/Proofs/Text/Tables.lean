import Airgap.Mnemonic.Spelling
import Airgap.Proofs.Text.CodeMask

/-!
# What the tables say about single characters

The tables of Unicode are checked entry by entry, once; everything else about decomposition and folding
rests on the statements of this module.

* `decompose_of_mem_decompose`, `isInvisible_of_mem_decompose`: what a character decomposes to does not
  decompose further, and is visible if the character is.
* `fold_cases`: folding a character that does not decompose changes nothing or gives characters that
  neither normalization touches again.
-/

namespace Airgap.Text

open Mnemonic (isInvisible)

/-! ## Decompositions -/

/-- The parts of the table of decompositions. -/
def decompositionTables : List (List (ℕ × List ℕ)) := [
  decompositions0, decompositions1, decompositions2, decompositions3, decompositions4,
  decompositions5, decompositions6, decompositions7, decompositions8, decompositions9,
  decompositions10, decompositions11, decompositions12, decompositions13, decompositions14,
  decompositions15, decompositions16, decompositions17, decompositions18, decompositions19,
  decompositions20, decompositions21, decompositions22, decompositions23, decompositions24,
  decompositions25, decompositions26, decompositions27, decompositions28, decompositions29,
  decompositions30, decompositions31, decompositions32, decompositions33, decompositions34,
  decompositions35, decompositions36, decompositions37, decompositions38, decompositions39,
  decompositions40, decompositions41, decompositions42, decompositions43, decompositions44,
  decompositions45]

theorem mem_decompositions {e : ℕ × List ℕ} :
    e ∈ decompositions ↔ ∃ t ∈ decompositionTables, e ∈ t := by
  unfold decompositions decompositionTables
  simp only [List.mem_append, or_assoc, List.mem_cons, exists_eq_or_imp, List.not_mem_nil, or_false,
    exists_eq_left]

/-- The code points that the table decomposes. -/
def decomposable : ℕ := codeMask (decompositionTables.map (·.map (·.1)))

/-- Whether a code point is a character that decomposes to itself. -/
def isAtom (n : ℕ) : Bool :=
  (n < 0xAC00 || (0xD7A3 < n && n < 0xD800) || (0xDFFF < n && n < 0x110000)) &&
    !decomposable.testBit n

theorem lookup_eq_none_iff {n : ℕ} :
    decompositions.lookup n = none ↔ decomposable.testBit n = false := by
  rw [List.lookup_eq_none_iff, ← Bool.not_eq_true, decomposable, testBit_codeMask]
  constructor
  · rintro h ⟨ns, hns, hn⟩
    obtain ⟨t, ht, rfl⟩ := List.mem_map.mp hns
    obtain ⟨e, he, rfl⟩ := List.mem_map.mp hn
    have hne := h e (mem_decompositions.mpr ⟨t, ht, he⟩)
    rw [bne_self_eq_false] at hne
    exact nomatch hne
  · intro h e he
    obtain ⟨t, ht, he⟩ := mem_decompositions.mp he
    rw [bne_iff_ne]
    rintro rfl
    exact h ⟨_, List.mem_map_of_mem ht, List.mem_map_of_mem he⟩

theorem isAtom_toNat {n : ℕ} (h : isAtom n = true) : (Char.ofNat n).toNat = n := by
  simp only [isAtom, Bool.and_eq_true, Bool.or_eq_true, decide_eq_true_eq] at h
  have hvalid : n.isValidChar := by
    rw [Nat.isValidChar]
    omega
  rw [Char.ofNat, dif_pos hvalid]
  rfl

theorem decompose_of_isAtom {n : ℕ} (h : isAtom n = true) :
    decompose (Char.ofNat n) = [Char.ofNat n] := by
  have htoNat := isAtom_toNat h
  simp only [isAtom, Bool.and_eq_true, Bool.or_eq_true, decide_eq_true_eq,
    Bool.not_eq_true'] at h
  rw [decompose, htoNat, lookup_eq_none_iff.mpr h.2]
  split
  · rfl
  · rw [if_neg (by omega)]

/-- Whether a code point is a visible character that decomposes to itself. -/
def isPlain (n : ℕ) : Bool := isAtom n && !isInvisible (Char.ofNat n)

theorem isPlain_decompositionTables :
    (decompositionTables.all fun t => t.all fun e => e.2.all isPlain) = true := by decide +kernel

theorem isPlain_ascii : ((List.range 0x80).all isPlain) = true := by
  set_option maxRecDepth 20000 in decide

theorem isPlain_jamo : ((List.range' 0x1100 0x100).all isPlain) = true := by
  set_option maxRecDepth 20000 in decide

theorem isPlain_of_mem_jamo {s : ℕ} (hs : s < 11172) {x : Char} (hx : x ∈ hangulJamo s) :
    ∃ n, isPlain n = true ∧ x = Char.ofNat n := by
  have hjamo : ∀ n, 0x1100 ≤ n → n < 0x1200 → isPlain n = true := by
    intro n hlow hhigh
    exact List.all_eq_true.mp isPlain_jamo n (List.mem_range'_1.mpr ⟨hlow, hhigh⟩)
  have hlead : isPlain (0x1100 + s / 588) = true := hjamo _ (by omega) (by omega)
  have hvowel : isPlain (0x1161 + s % 588 / 28) = true := hjamo _ (by omega) (by omega)
  have htail : isPlain (0x11A7 + s % 28) = true := hjamo _ (by omega) (by omega)
  unfold hangulJamo at hx
  simp only at hx
  split at hx
  · simp only [List.mem_cons, List.not_mem_nil, or_false] at hx
    rcases hx with rfl | rfl
    · exact ⟨_, hlead, rfl⟩
    · exact ⟨_, hvowel, rfl⟩
  · simp only [List.mem_cons, List.not_mem_nil, or_false] at hx
    rcases hx with rfl | rfl | rfl
    · exact ⟨_, hlead, rfl⟩
    · exact ⟨_, hvowel, rfl⟩
    · exact ⟨_, htail, rfl⟩

theorem mem_of_lookup {n : ℕ} {ns : List ℕ} (h : decompositions.lookup n = some ns) :
    ∃ t ∈ decompositionTables, (n, ns) ∈ t := by
  obtain ⟨l, r, hl, -⟩ := List.lookup_eq_some_iff.mp h
  refine mem_decompositions.mp ?_
  rw [hl]
  exact List.mem_append_right _ List.mem_cons_self

theorem isPlain_of_lookup {n : ℕ} {ns : List ℕ} (h : decompositions.lookup n = some ns) :
    ∀ m ∈ ns, isPlain m = true := by
  obtain ⟨t, ht, hmem⟩ := mem_of_lookup h
  have hall := List.all_eq_true.mp isPlain_decompositionTables t ht
  exact List.all_eq_true.mp (List.all_eq_true.mp hall _ hmem)

/-- A character is its own decomposition, a syllable, or listed. -/
theorem decompose_cases (c : Char) : decompose c = [c] ∨
    (0xAC00 ≤ c.toNat ∧ c.toNat ≤ 0xD7A3 ∧ decompose c = hangulJamo (c.toNat - 0xAC00)) ∨
    ∃ ns, decompositions.lookup c.toNat = some ns ∧ decompose c = ns.map Char.ofNat := by
  by_cases hascii : c.toNat < 0x80
  · exact .inl (by rw [decompose, if_pos hascii])
  · by_cases hhangul : 0xAC00 ≤ c.toNat ∧ c.toNat ≤ 0xD7A3
    · exact .inr (.inl ⟨hhangul.1, hhangul.2, by rw [decompose, if_neg hascii, if_pos hhangul]⟩)
    · cases hlookup : decompositions.lookup c.toNat with
      | none => exact .inl (by rw [decompose, if_neg hascii, if_neg hhangul, hlookup])
      | some ns =>
        exact .inr (.inr ⟨ns, rfl, by rw [decompose, if_neg hascii, if_neg hhangul, hlookup]⟩)

/-- A character is its own decomposition, or every part of it comes from the tables. -/
theorem mem_decompose {c x : Char} (hx : x ∈ decompose c) :
    decompose c = [c] ∧ x = c ∨ ∃ n, isPlain n = true ∧ x = Char.ofNat n := by
  rcases decompose_cases c with hself | ⟨-, hhigh, hjamo⟩ | ⟨ns, hlookup, hlisted⟩
  · rw [hself] at hx
    exact .inl ⟨hself, List.mem_singleton.mp hx⟩
  · rw [hjamo] at hx
    exact .inr (isPlain_of_mem_jamo (by omega) hx)
  · rw [hlisted] at hx
    obtain ⟨n, hn, rfl⟩ := List.mem_map.mp hx
    exact .inr ⟨n, isPlain_of_lookup hlookup n hn, rfl⟩

/-- **Decomposition is complete**: what a character decomposes to does not decompose further. -/
theorem decompose_of_mem_decompose {c x : Char} (hx : x ∈ decompose c) : decompose x = [x] := by
  rcases mem_decompose hx with ⟨h, rfl⟩ | ⟨n, hn, rfl⟩
  · exact h
  · rw [isPlain, Bool.and_eq_true] at hn
    exact decompose_of_isAtom hn.1

/-- A character that is its own decomposition is not in the table. -/
theorem testBit_decomposable {c : Char} (hc : decompose c = [c]) :
    decomposable.testBit c.toNat = false := by
  have hplain {n : ℕ} (h : isPlain n = true) : decomposable.testBit n = false := by
    simp only [isPlain, isAtom, Bool.and_eq_true, Bool.not_eq_true'] at h
    exact h.1.2
  rw [decompose] at hc
  split at hc
  · exact hplain (List.all_eq_true.mp isPlain_ascii _ (List.mem_range.mpr ‹_›))
  · split at hc
    · unfold hangulJamo at hc
      simp only at hc
      split at hc <;> simp at hc
    · split at hc
      · rename_i ns hlookup
        obtain ⟨n, rfl, hn⟩ := List.map_eq_singleton_iff.mp hc
        have hn' := isPlain_of_lookup hlookup n (List.mem_singleton_self n)
        have hatom : isAtom n = true := by
          rw [isPlain, Bool.and_eq_true] at hn'
          exact hn'.1
        rw [← hn, isAtom_toNat hatom]
        exact hplain hn'
      · exact lookup_eq_none_iff.mp ‹_›

theorem isInvisible_of_mem_decompose {c x : Char} (hc : isInvisible c = false)
    (hx : x ∈ decompose c) : isInvisible x = false := by
  rcases mem_decompose hx with ⟨-, rfl⟩ | ⟨n, hn, rfl⟩
  · exact hc
  · rw [isPlain, Bool.and_eq_true, Bool.not_eq_true'] at hn
    exact hn.2

/-! ## Folding -/

/-- The code points with a combining class other than zero. -/
def marks : ℕ := codeMask (combiningTable.map (·.1.members))

theorem combiningClass_eq_zero {c : Char} (h : marks.testBit c.toNat = false) :
    combiningClass c = 0 := by
  rw [combiningClass]
  split
  · rfl
  · split
    · rename_i e he
      have hcontains := List.find?_some (p := fun e : CodeRange × ℕ => e.1.contains c) he
      rw [CodeRange.contains_iff] at hcontains
      have hbit : marks.testBit c.toNat = true :=
        testBit_codeMask.mpr ⟨_, List.mem_map_of_mem (List.mem_of_find?_eq_some he),
          CodeRange.mem_members hcontains.1 hcontains.2⟩
      rw [h] at hbit
      exact nomatch hbit
    · rfl

/-- The code points that folding may change. -/
def foldable : ℕ := codeMask foldMap.changed

theorem apply_foldMap_eq_self {c : Char} (h : foldable.testBit c.toNat = false) :
    foldMap.apply c = [c] := CaseMap.apply_eq_self h

/-- A character that normalization leaves alone: it is visible and no blank, and neither decomposed nor
folded nor moved. -/
structure Settled (c : Char) : Prop where
  decompose_eq : decompose c = [c]
  fold_eq : foldMap.apply c = [c]
  combiningClass_eq : combiningClass c = 0
  isBlank_eq : isBlank c = false
  isInvisible_eq : isInvisible c = false

/-- Whether a code point is a settled character. -/
def isSettled (n : ℕ) : Bool :=
  isPlain n && !foldable.testBit n && !marks.testBit n && !isBlank (Char.ofNat n)

theorem settled_of_isSettled {n : ℕ} (h : isSettled n = true) : Settled (Char.ofNat n) := by
  simp only [isSettled, isPlain, Bool.and_eq_true, Bool.not_eq_true'] at h
  obtain ⟨⟨⟨⟨hatom, hinvisible⟩, hfold⟩, hmark⟩, hblank⟩ := h
  have htoNat := isAtom_toNat hatom
  exact ⟨decompose_of_isAtom hatom, apply_foldMap_eq_self (by rw [htoNat]; exact hfold),
    combiningClass_eq_zero (by rw [htoNat]; exact hmark), hblank, hinvisible⟩

/-- Whether all that a case mapping makes of characters that do not decompose passes a test, listed or
moved in a run. -/
def CaseMap.imagesPass (m : CaseMap) (test : ℕ → Bool) : Bool :=
  (m.special.all fun e => decomposable.testBit e.1 || (!e.2.isEmpty && e.2.all test)) &&
    m.runs.all fun r => r.members.all fun n => decomposable.testBit n || test (n + r.delta).toNat

theorem imagesPass_foldMap : foldMap.imagesPass isSettled = true := by decide +kernel

/-- What a case mapping makes of a character that does not decompose: nothing new, or characters that pass
the test. -/
theorem CaseMap.apply_cases {m : CaseMap} {test : ℕ → Bool} (h : m.imagesPass test = true)
    {c : Char} (hc : decompose c = [c]) :
    m.apply c = [c] ∨ m.apply c ≠ [] ∧ ∀ x ∈ m.apply c, ∃ n, test n = true ∧ x = Char.ofNat n := by
  have hc := testBit_decomposable hc
  rw [imagesPass, Bool.and_eq_true] at h
  obtain ⟨hspecial, hruns⟩ := h
  rw [CaseMap.apply]
  rcases m.image_cases c.toNat with ⟨ns, hns, himage⟩ | ⟨r, hr, hn, himage⟩ | himage
  · have hall := List.all_eq_true.mp hspecial _ hns
    simp only [hc, Bool.false_or, Bool.and_eq_true, Bool.not_eq_true', List.isEmpty_eq_false_iff]
      at hall
    rw [himage]
    refine .inr ⟨by simpa using hall.1, fun x hx => ?_⟩
    obtain ⟨n, hn, rfl⟩ := List.mem_map.mp hx
    exact ⟨n, List.all_eq_true.mp hall.2 n hn, rfl⟩
  · have hall := List.all_eq_true.mp (List.all_eq_true.mp hruns r hr) _ hn
    rw [hc, Bool.false_or] at hall
    rw [himage]
    exact .inr ⟨by simp, fun x hx => ⟨_, hall, List.mem_singleton.mp hx⟩⟩
  · rw [himage, List.map_singleton, Char.ofNat_toNat]
    exact .inl rfl

/-- **Folding settles.** A character that does not decompose is folded to itself or to characters that
normalization leaves alone. -/
theorem fold_cases {c : Char} (hc : decompose c = [c]) :
    foldMap.apply c = [c] ∨ foldMap.apply c ≠ [] ∧ ∀ x ∈ foldMap.apply c, Settled x := by
  refine (CaseMap.apply_cases imagesPass_foldMap hc).imp_right ?_
  rintro ⟨hne, hsettled⟩
  refine ⟨hne, fun x hx => ?_⟩
  obtain ⟨n, hn, rfl⟩ := hsettled x hx
  exact settled_of_isSettled hn

end Airgap.Text
