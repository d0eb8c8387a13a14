import Airgap.Proofs.Text.NormalForm

/-!
# Blanks are kept apart

Decomposition and folding turn blanks into blanks, and nothing else into a text of blanks alone.

* `of_isBlank`: what becomes of a blank.
* `all_isBlank_fold_nfkd`: a text is blank exactly if its folded decomposition is.
-/

namespace Airgap.Text

open Mnemonic (isInvisible)

/-- The code points of the blanks. -/
def blankCodes : List ℕ := [
  0x09, 0x0A, 0x0B, 0x0C, 0x0D, 0x1C, 0x1D, 0x1E, 0x1F, 0x20, 0x85, 0xA0, 0x1680, 0x2000, 0x2001,
  0x2002, 0x2003, 0x2004, 0x2005, 0x2006, 0x2007, 0x2008, 0x2009, 0x200A, 0x2028, 0x2029, 0x202F,
  0x205F, 0x3000]

theorem isBlank_iff {c : Char} : isBlank c = true ↔ c.toNat ∈ blankCodes := by
  simp only [isBlank, Bool.or_eq_true, Bool.and_eq_true, decide_eq_true_eq, beq_iff_eq, blankCodes,
    List.mem_cons, List.not_mem_nil, or_false]
  omega

theorem toNat_le_of_isBlank {c : Char} (hc : isBlank c = true) : c.toNat ≤ 0x3000 := by
  simp only [isBlank_iff, blankCodes, List.mem_cons, List.not_mem_nil, or_false] at hc
  omega

/-- The blanks as bits. -/
def blanks : ℕ := listMask blankCodes

theorem isBlank_eq_testBit (c : Char) : isBlank c = blanks.testBit c.toNat := by
  rw [Bool.eq_iff_iff, isBlank_iff, blanks, testBit_listMask]

/-! ## Decomposition -/

/-- A listed blank decomposes to a space, and nothing else to blanks alone. -/
theorem blanks_decompositionTables : (decompositionTables.all fun t => t.all fun e =>
    if blanks.testBit e.1 then e.2 == [0x20] else !e.2.all blanks.testBit) = true := by decide

theorem blanks_of_lookup {n : ℕ} {ns : List ℕ} (h : decompositions.lookup n = some ns) :
    (if blanks.testBit n then ns == [0x20] else !ns.all blanks.testBit) = true := by
  obtain ⟨t, ht, hmem⟩ := mem_of_lookup h
  exact List.all_eq_true.mp (List.all_eq_true.mp blanks_decompositionTables t ht) _ hmem

theorem decompose_of_isBlank {c : Char} (hc : isBlank c = true) :
    decompose c = [c] ∨ decompose c = [' '] := by
  rcases decompose_cases c with hself | ⟨hlow, -, -⟩ | ⟨ns, hlookup, hlisted⟩
  · exact .inl hself
  · have hle := toNat_le_of_isBlank hc
    omega
  · have hspace := blanks_of_lookup hlookup
    rw [← isBlank_eq_testBit, hc, if_pos rfl, beq_iff_eq] at hspace
    rw [hlisted, hspace]
    exact .inr rfl

theorem settled_blankCodes : (blankCodes.all fun n => !foldable.testBit n && !marks.testBit n &&
    !isInvisible (Char.ofNat n)) = true := by
  set_option maxRecDepth 20000 in decide

/-- A blank is visible, and made of blanks of class zero that folding leaves alone. -/
theorem of_isBlank {c : Char} (hc : isBlank c = true) : isInvisible c = false ∧ decompose c ≠ [] ∧
    ∀ x ∈ decompose c, isBlank x = true ∧ combiningClass x = 0 ∧ foldMap.apply x = [x] := by
  have hblank {x : Char} (hx : isBlank x = true) :
      isInvisible x = false ∧ combiningClass x = 0 ∧ foldMap.apply x = [x] := by
    have hsettled := List.all_eq_true.mp settled_blankCodes _ (isBlank_iff.mp hx)
    simp only [Bool.and_eq_true, Bool.not_eq_true', Char.ofNat_toNat] at hsettled
    obtain ⟨⟨hfold, hmark⟩, hvisible⟩ := hsettled
    exact ⟨hvisible, combiningClass_eq_zero hmark, apply_foldMap_eq_self hfold⟩
  obtain ⟨x, hx, hself⟩ : ∃ x, isBlank x = true ∧ decompose c = [x] := by
    rcases decompose_of_isBlank hc with hself | hspace
    · exact ⟨c, hc, hself⟩
    · exact ⟨' ', rfl, hspace⟩
  refine ⟨(hblank hc).1, ?_, ?_⟩
  · rw [hself]
    exact List.cons_ne_nil x []
  · rw [hself]
    exact List.forall_mem_singleton.mpr ⟨hx, (hblank hx).2⟩

theorem isBlank_leads :
    ((List.range' 0x1100 0x100).all fun n => !isBlank (Char.ofNat n)) = true := by
  set_option maxRecDepth 20000 in decide

/-- The jamo of a syllable are no blanks. -/
theorem all_isBlank_jamo {s : ℕ} (hs : s < 11172) : (hangulJamo s).all isBlank = false := by
  have hlead := List.all_eq_true.mp isBlank_leads (0x1100 + s / 588)
    (List.mem_range'_1.mpr ⟨by omega, by omega⟩)
  rw [Bool.not_eq_true'] at hlead
  rw [hangulJamo]
  split <;> rw [List.all_cons, hlead, Bool.false_and]

theorem all_isBlank_listed {n : ℕ} {ns : List ℕ} (h : decompositions.lookup n = some ns) :
    (ns.map Char.ofNat).all isBlank = blanks.testBit n := by
  have htoNat : (ns.map Char.ofNat).map Char.toNat = ns := by
    rw [List.map_map]
    refine (List.map_congr_left fun m hm => ?_).trans (List.map_id ns)
    have hplain := isPlain_of_lookup h m hm
    rw [isPlain, Bool.and_eq_true] at hplain
    exact isAtom_toNat hplain.1
  have hbits : isBlank = blanks.testBit ∘ Char.toNat := funext isBlank_eq_testBit
  rw [hbits, ← List.all_map, htoNat]
  have hlisted := blanks_of_lookup h
  cases hn : blanks.testBit n with
  | true =>
    rw [hn, if_pos rfl, beq_iff_eq] at hlisted
    rw [hlisted]
    decide
  | false =>
    rw [hn, if_neg Bool.false_ne_true, Bool.not_eq_true'] at hlisted
    exact hlisted

/-- What a character decomposes to is blank exactly if the character is. -/
theorem all_isBlank_decompose (c : Char) : (decompose c).all isBlank = isBlank c := by
  rcases decompose_cases c with hself | ⟨hlow, hhigh, hjamo⟩ | ⟨ns, hlookup, hlisted⟩
  · rw [hself, List.all_cons, List.all_nil, Bool.and_true]
  · have hblank : isBlank c = false := by
      by_contra hblank
      have hle := toNat_le_of_isBlank (eq_true_of_ne_false hblank)
      omega
    rw [hjamo, all_isBlank_jamo (by omega), hblank]
  · rw [hlisted, all_isBlank_listed hlookup, isBlank_eq_testBit]

/-! ## Folding -/

theorem all_isBlank_apply {c : Char} (hc : decompose c = [c]) :
    (foldMap.apply c).all isBlank = isBlank c := by
  rcases fold_cases hc with hself | ⟨hne, hsettled⟩
  · rw [hself, List.all_cons, List.all_nil, Bool.and_true]
  · have hblank : isBlank c = false := by
      by_contra hblank
      obtain ⟨-, -, hparts⟩ := of_isBlank (eq_true_of_ne_false hblank)
      rw [hc] at hparts
      have hself : foldMap.apply c = [c] := (hparts c List.mem_cons_self).2.2
      rw [hself] at hsettled
      exact hblank (hsettled c List.mem_cons_self).isBlank_eq
    obtain ⟨x, hx⟩ := List.exists_mem_of_ne_nil _ hne
    rw [hblank, List.all_eq_false]
    exact ⟨x, hx, Bool.eq_false_iff.mp (hsettled x hx).isBlank_eq⟩

theorem all_isBlank_fold {cs : List Char} (h : ∀ c ∈ cs, decompose c = [c]) :
    (fold cs).all isBlank = cs.all isBlank := by
  induction cs with
  | nil => rfl
  | cons c cs ih =>
    obtain ⟨hc, hcs⟩ := List.forall_mem_cons.mp h
    rw [fold_cons, List.all_append, all_isBlank_apply hc, ih hcs, List.all_cons]

/-- **Blanks are kept apart**: a text is blank exactly if its folded decomposition is. -/
theorem all_isBlank_fold_nfkd (cs : List Char) : (fold (nfkd cs)).all isBlank = cs.all isBlank := by
  rw [all_isBlank_fold (decomposed_nfkd cs).atoms, nfkd, (reorder_perm _).all_eq, List.all_flatMap]
  simp only [all_isBlank_decompose]

end Airgap.Text
