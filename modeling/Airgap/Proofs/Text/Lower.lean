import Airgap.Proofs.Text.NormalForm

/-!
# Lower case of decomposed text

* `Lowered`: characters that neither decomposition nor lowering touches.
* `lowered_of_mem_lower`: lowering visible text that does not decompose leaves such characters only, final
  sigmas among them.
* `lower_eq_self`: such text is its own lower case, since no capital sigma is left in it.
-/

namespace Airgap.Text

open Mnemonic (isInvisible)

/-- A visible character that is its own decomposition and its own lower case. -/
structure Lowered (c : Char) : Prop where
  isInvisible_eq : isInvisible c = false
  decompose_eq : decompose c = [c]
  lower_eq : lowerMap.apply c = [c]

/-- The code points that lowering may change. -/
def lowerable : ℕ := codeMask lowerMap.changed

/-- Whether a code point is such a character. -/
def isLowered (n : ℕ) : Bool := isPlain n && !lowerable.testBit n

theorem toNat_of_isLowered {n : ℕ} (h : isLowered n = true) : (Char.ofNat n).toNat = n := by
  simp only [isLowered, isPlain, Bool.and_eq_true] at h
  exact isAtom_toNat h.1.1

theorem lowered_of_isLowered {n : ℕ} (h : isLowered n = true) : Lowered (Char.ofNat n) := by
  have htoNat := toNat_of_isLowered h
  simp only [isLowered, isPlain, Bool.and_eq_true, Bool.not_eq_true'] at h
  obtain ⟨⟨hatom, hinvisible⟩, hlower⟩ := h
  exact ⟨hinvisible, decompose_of_isAtom hatom, CaseMap.apply_eq_self (by rw [htoNat]; exact hlower)⟩

/-- A capital sigma, whose lower case depends on its neighbours, has one. -/
theorem ne_sigma_of_lower_eq {c : Char} (h : lowerMap.apply c = [c]) : c ≠ 'Σ' := by
  rintro rfl
  have hlower : lowerMap.apply 'Σ' ≠ ['Σ'] := by decide
  exact hlower h

theorem imagesPass_lowerMap : lowerMap.imagesPass isLowered = true := by decide +kernel

theorem isLowered_sigmas : ([0x3C2, 0x3C3].all isLowered) = true := by
  set_option maxRecDepth 20000 in decide

/-- Both small sigmas. -/
theorem lowered_lowerSigma (before after : List Char) : Lowered (lowerSigma before after) := by
  have hsigmas := List.all_eq_true.mp isLowered_sigmas
  rw [lowerSigma]
  split
  · exact lowered_of_isLowered (hsigmas 0x3C2 List.mem_cons_self)
  · exact lowered_of_isLowered (hsigmas 0x3C3 (List.mem_cons_of_mem _ List.mem_cons_self))

/-- **Lowering settles.** A visible character that does not decompose is lowered to characters that lowering
leaves alone. -/
theorem lowered_of_mem_apply {c x : Char} (hvisible : isInvisible c = false) (hc : decompose c = [c])
    (hx : x ∈ lowerMap.apply c) : Lowered x := by
  rcases CaseMap.apply_cases imagesPass_lowerMap hc with hself | ⟨-, hlowered⟩
  · rw [hself, List.mem_singleton] at hx
    subst hx
    exact ⟨hvisible, hc, hself⟩
  · obtain ⟨n, hn, rfl⟩ := hlowered x hx
    exact lowered_of_isLowered hn

variable {cs : List Char}

theorem lowered_of_mem_lowerAfter (hvisible : ∀ c ∈ cs, isInvisible c = false)
    (hatoms : ∀ c ∈ cs, decompose c = [c]) {before : List Char} {x : Char}
    (hx : x ∈ lowerAfter before cs) : Lowered x := by
  induction cs generalizing before with
  | nil => exact nomatch hx
  | cons c cs ih =>
    obtain ⟨hseen, hvisible⟩ := List.forall_mem_cons.mp hvisible
    obtain ⟨hatom, hatoms⟩ := List.forall_mem_cons.mp hatoms
    rw [lowerAfter, List.mem_append] at hx
    rcases hx with hx | hx
    · split at hx
      · rw [List.mem_singleton.mp hx]
        exact lowered_lowerSigma before cs
      · exact lowered_of_mem_apply hseen hatom hx
    · exact ih hvisible hatoms hx

theorem lowered_of_mem_lower (hvisible : ∀ c ∈ cs, isInvisible c = false)
    (hatoms : ∀ c ∈ cs, decompose c = [c]) : ∀ x ∈ lower cs, Lowered x :=
  fun _ hx => lowered_of_mem_lowerAfter hvisible hatoms hx

theorem lowerAfter_eq_self (h : ∀ c ∈ cs, lowerMap.apply c = [c]) (before : List Char) :
    lowerAfter before cs = cs := by
  induction cs generalizing before with
  | nil => rfl
  | cons c cs ih =>
    obtain ⟨hc, hcs⟩ := List.forall_mem_cons.mp h
    rw [lowerAfter, if_neg (ne_sigma_of_lower_eq hc), hc, ih hcs, List.singleton_append]

theorem lower_eq_self (h : ∀ c ∈ cs, lowerMap.apply c = [c]) : lower cs = cs := lowerAfter_eq_self h []

end Airgap.Text
