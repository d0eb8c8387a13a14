import Airgap.Proofs.Curve.Prime
import Mathlib.FieldTheory.Finite.Basic

/-!
# Coordinates modulo the field prime

Integers are read in the field `Residue`, in which reduced ones are told apart.

* `residue_emod`, `residue_inj`: reducing keeps the residue, and a reduced integer is known by it.
* `residue_power`: `power` is the power of the field.
* `residue_inverse`, `residue_root`: the two exponents invert, and take roots of squares.
-/

namespace Airgap.Curve

/-- The field of coordinates. -/
abbrev Residue : Type := ZMod fieldSize

instance : Fact fieldSize.Prime := ⟨prime_fieldSize⟩

/-- Whether an integer is its own remainder. -/
def Reduced (a : ℤ) : Prop := 0 ≤ a ∧ a < fieldPrime

instance (a : ℤ) : Decidable (Reduced a) := inferInstanceAs (Decidable (_ ∧ _))

theorem reduced_emod (a : ℤ) : Reduced (a % fieldPrime) :=
  ⟨Int.emod_nonneg _ (by decide), Int.emod_lt_of_pos _ fieldPrime_pos⟩

theorem reduced_val (x : Residue) : Reduced x.val := by
  have h := ZMod.val_lt x
  rw [Reduced, fieldPrime_eq]
  omega

@[simp] theorem residue_emod (a : ℤ) : ((a % fieldPrime : ℤ) : Residue) = a := by
  rw [fieldPrime_eq, ZMod.intCast_mod]

theorem residue_val (x : Residue) : ((x.val : ℤ) : Residue) = x := by
  rw [Int.cast_natCast, ZMod.natCast_zmod_val]

theorem residue_inj {a b : ℤ} (ha : Reduced a) (hb : Reduced b) :
    (a : Residue) = b ↔ a = b := by
  rw [ZMod.intCast_eq_intCast_iff', ← fieldPrime_eq, Int.emod_eq_of_lt ha.1 ha.2,
    Int.emod_eq_of_lt hb.1 hb.2]

theorem residue_eq_zero {a : ℤ} (ha : Reduced a) : (a : Residue) = 0 ↔ a = 0 := by
  rw [← residue_inj ha ⟨le_rfl, fieldPrime_pos⟩, Int.cast_zero]

/-- A reduced integer is the value of its residue. -/
theorem val_residue {a : ℤ} (ha : Reduced a) : ((a : Residue).val : ℤ) = a :=
  (residue_inj (reduced_val _) ha).mp (residue_val _)

theorem two_ne_zero_residue : (2 : Residue) ≠ 0 := by
  have h : Reduced 2 := by decide
  exact_mod_cast (residue_eq_zero h).not.mpr (by decide)

/-! ## Powers -/

/-- The low `n + 1` bits of a number are its bit `n` in front of the low `n`. -/
theorem mod_two_pow_add_one (e n : ℕ) :
    e % 2 ^ (n + 1) = (if e.testBit n then 2 ^ n else 0) + e % 2 ^ n := by
  rw [Nat.mod_pow_succ, Nat.add_comm, Nat.testBit_eq_decide_div_mod_eq]
  rcases Nat.mod_two_eq_zero_or_one (e / 2 ^ n) with h | h <;> simp [h]

/-- Squaring through `n` bits raises what was there to `2 ^ n` and multiplies by the power of the
low bits. -/
theorem residue_powerLoop (b : ℤ) (e n : ℕ) (acc : ℤ) :
    ((powerLoop b e n acc : ℤ) : Residue) = (acc : Residue) ^ 2 ^ n * (b : Residue) ^ (e % 2 ^ n) := by
  induction n generalizing acc with
  | zero => simp [powerLoop, Nat.mod_one]
  | succ n ih =>
    rw [powerLoop, ih, mod_two_pow_add_one, pow_succ 2 n]
    cases e.testBit n
    · simp only [Bool.false_eq_true, if_false, residue_emod, Int.cast_mul, zero_add]
      ring
    · simp only [if_true, residue_emod, Int.cast_mul]
      ring

theorem reduced_powerLoop (b : ℤ) (e n : ℕ) {acc : ℤ} (h : Reduced acc) :
    Reduced (powerLoop b e n acc) := by
  induction n generalizing acc with
  | zero => exact h
  | succ n ih =>
    rw [powerLoop]
    refine ih ?_
    split <;> exact reduced_emod _

theorem reduced_power (b : ℤ) (e : ℕ) : Reduced (power b e) :=
  reduced_powerLoop b e scalarBits (by decide)

theorem residue_power (b : ℤ) {e : ℕ} (h : e < 2 ^ scalarBits) :
    ((power b e : ℤ) : Residue) = (b : Residue) ^ e := by
  rw [power, residue_powerLoop, Nat.mod_eq_of_lt h, Int.cast_one, one_pow, one_mul]

/-! ## Inverses and roots -/

theorem inverseExponent_add_one : inverseExponent + 1 = fieldSize - 1 := by decide

theorem four_mul_rootExponent : 4 * rootExponent = (fieldSize - 1) + 2 := by decide

theorem residue_inverse {z : ℤ} (h : (z : Residue) ≠ 0) :
    ((power z inverseExponent : ℤ) : Residue) = (z : Residue)⁻¹ := by
  rw [residue_power z (by decide)]
  refine eq_inv_of_mul_eq_one_left ?_
  rw [← pow_succ, inverseExponent_add_one, ZMod.pow_card_sub_one_eq_one h]

/-- **The root exponent takes square roots**, of every number that has one. -/
theorem residue_root {a : ℤ} {y : Residue} (h : (a : Residue) = y ^ 2) :
    ((power a rootExponent : ℤ) : Residue) ^ 2 = (a : Residue) := by
  rw [residue_power a (by decide), h, ← pow_mul, ← pow_mul,
    show 2 * (rootExponent * 2) = fieldSize - 1 + 2 by rw [← four_mul_rootExponent]; ring, pow_add]
  by_cases hy : y = 0
  · rw [hy, zero_pow two_ne_zero, mul_zero]
  · rw [ZMod.pow_card_sub_one_eq_one hy, one_mul]

end Airgap.Curve
