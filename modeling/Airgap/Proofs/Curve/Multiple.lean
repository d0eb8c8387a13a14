import Airgap.Proofs.Curve.Group
import Mathlib.GroupTheory.OrderOfElement

/-!
# Multiples of points

The Montgomery ladder computes multiples in the group, and the base point has the order `order`.

* `Represents.ladder`: the ladder keeps a pair whose difference is the point.
* `multiple_coordinates`: the multiple of a point on the curve is the multiple in the group.
* `addOrderOf_base`: the multiples of the base point repeat after `order`, and no earlier.
* `multiply_eq_repeatedSum`: what the multiple by any integer is.
-/

namespace Airgap.Curve

/-- **The ladder** from the pair `(A, A + B)` reads the low `n` bits of `k`: it doubles `A` as often
and adds the multiple of `B` by those bits. -/
theorem Jacobian.Represents.ladder {i j : Jacobian} {A B : Group} (k n : ℕ) (hi : i.Represents A)
    (hj : j.Represents (A + B)) :
    (Jacobian.ladder k n i j).Represents (2 ^ n • A + (k % 2 ^ n) • B) := by
  induction n generalizing i j A with
  | zero =>
    rw [Jacobian.ladder, pow_zero, Nat.mod_one, one_nsmul, zero_nsmul, add_zero]
    exact hi
  | succ n ih =>
    have hpow : (2 ^ (n + 1)) • A = 2 ^ n • (A + A) := by rw [pow_succ, mul_nsmul', two_nsmul]
    rw [Jacobian.ladder, mod_two_pow_add_one, hpow]
    cases k.testBit n
    · have hsum : (i.add j).Represents (A + A + B) := by
        rw [add_assoc]
        exact hi.add hj
      have h := ih hi.double hsum
      rw [if_neg Bool.false_ne_true, if_neg Bool.false_ne_true, zero_add]
      exact h
    · have hsum : j.double.Represents (A + (A + B) + B) := by
        rw [show A + (A + B) + B = A + B + (A + B) by abel]
        exact hj.double
      have h := ih (hi.add hj) hsum
      rw [if_pos rfl, if_pos rfl, add_nsmul, ← add_assoc, ← nsmul_add, add_assoc A]
      exact h

theorem lt_scalarLimit {k : ℕ} : k < scalarLimit ↔ k < 2 ^ scalarBits := by
  rw [scalarLimit, Nat.one_shiftLeft]

/-- **The multiple of a point on the curve is the multiple in the group.** -/
theorem multiple_coordinates {k : ℕ} (hk : k < scalarLimit) (A : Group) :
    multiple k (coordinates A) = coordinates (k • A) := by
  have hA : (toJacobian (coordinates A)).Represents (0 + A) := by
    rw [zero_add]
    exact represents_toJacobian A
  have h := Jacobian.represents_infinity.ladder k scalarBits hA
  rw [nsmul_zero, zero_add, Nat.mod_eq_of_lt (lt_scalarLimit.mp hk)] at h
  exact ofJacobian_eq h

/-! ## The base point -/

theorem exists_coordinates_generator : ∃ A : Group, coordinates A = some generator :=
  isOnCurve_iff.mp isOnCurve_generator

/-- The base point as an element of the group. -/
noncomputable def base : Group := exists_coordinates_generator.choose

theorem coordinates_base : coordinates base = some generator :=
  exists_coordinates_generator.choose_spec

theorem base_ne_zero : base ≠ 0 := by
  rw [ne_eq, ← coordinates_eq_none, coordinates_base]
  exact Option.some_ne_none _

theorem multiple_generator {k : ℕ} (hk : k < scalarLimit) :
    multiple k (some generator) = coordinates (k • base) := by
  rw [← coordinates_base, multiple_coordinates hk]

/-- The ladder takes the base point to infinity at `order`. -/
theorem multiple_order : multiple order (some generator) = none := by
  set_option maxRecDepth 20000 in decide

theorem order_nsmul_base : order • base = 0 := by
  rw [← coordinates_eq_none, ← multiple_generator order_lt, multiple_order]

/-- **The base point has order `order`.** -/
theorem addOrderOf_base : addOrderOf base = order :=
  have : Fact order.Prime := ⟨prime_order⟩
  addOrderOf_eq_prime order_nsmul_base base_ne_zero

theorem nsmul_base_eq_zero {k : ℕ} : k • base = 0 ↔ k % order = 0 := by
  rw [← Nat.dvd_iff_mod_eq_zero, ← addOrderOf_base]
  exact addOrderOf_dvd_iff_nsmul_eq_zero.symm

theorem nsmul_base_mod (k : ℕ) : (k % order) • base = k • base := by
  rw [← addOrderOf_base, mod_addOrderOf_nsmul]

/-- Scalars below the order have different multiples of the base point. -/
theorem eq_of_nsmul_base_eq {k l : ℕ} (hk : k < order) (hl : l < order)
    (h : k • base = l • base) : k = l := by
  have hmod := nsmul_eq_nsmul_iff_modEq.mp h
  rw [addOrderOf_base] at hmod
  exact hmod.eq_of_lt_of_lt hk hl

/-! ## Repeated addition -/

/-- The sum of `k` copies of a point, added one after the other. -/
def repeatedSum (k : ℕ) (p : Point) : Point := (add p)^[k] none

theorem repeatedSum_coordinates (k : ℕ) (A : Group) :
    repeatedSum k (coordinates A) = coordinates (k • A) := by
  induction k with
  | zero => rw [zero_nsmul, coordinates_zero]; rfl
  | succ k ih =>
    rw [repeatedSum] at ih ⊢
    rw [Function.iterate_succ_apply', ih, add_coordinates, succ_nsmul']

theorem cast_scalarLimit : (scalarLimit : ℤ) = 2 ^ 256 := by
  rw [scalarLimit, scalarBits, Nat.one_shiftLeft]
  norm_num

theorem multiply_coordinates {k : ℤ} (h0 : 0 ≤ k) (hk : k < 2 ^ 256) (A : Group) :
    multiply k (coordinates A) = .ok (coordinates (k.toNat • A)) := by
  rw [← cast_scalarLimit] at hk
  have hlt : k.toNat < scalarLimit := by omega
  rw [multiply, if_pos ⟨h0, hk⟩, multiple_coordinates hlt]

/-- The coordinates of a point on the curve are reduced. -/
theorem reduced_of_isOnCurve {p : Point} (hp : isOnCurve p = true) :
    ∀ a ∈ p, Reduced a.x ∧ Reduced a.y := by
  intro a ha
  rw [Option.mem_def.mp ha] at hp
  obtain ⟨hx, hy, -⟩ := of_isOnCurve hp
  exact ⟨hx, hy⟩

/-- Multiples of the base point are added by adding their scalars modulo the order. -/
theorem multiply_add {a b : ℤ} (ha0 : 0 ≤ a) (ha : a < order) (hb0 : 0 ≤ b) (hb : b < order) :
    ∃ p q, multiply a (some generator) = .ok p ∧ multiply b (some generator) = .ok q ∧
      multiply ((a + b) % order) (some generator) = .ok (add p q) := by
  have horder : (order : ℤ) < 2 ^ 256 := by
    rw [← cast_scalarLimit]
    exact_mod_cast order_lt
  have hmod0 : 0 ≤ (a + b) % order := Int.emod_nonneg _ (by decide)
  have hmod : (a + b) % order < order := Int.emod_lt_of_pos _ (by decide)
  have hsum : ((a + b) % order).toNat = (a.toNat + b.toNat) % order := by
    lift a to ℕ using ha0
    lift b to ℕ using hb0
    exact_mod_cast Int.toNat_natCast _
  rw [← coordinates_base]
  refine ⟨_, _, multiply_coordinates ha0 (ha.trans horder) base,
    multiply_coordinates hb0 (hb.trans horder) base, ?_⟩
  rw [multiply_coordinates hmod0 (hmod.trans horder), hsum, nsmul_base_mod, add_nsmul,
    add_coordinates]

/-- **The multiple by an integer is a repeated sum.** A point on the curve is an element of the group,
and its multiple by a scalar of 256 bits is that element's multiple under the chord-and-tangent law, a
point on the curve with reduced coordinates; scalars of the base point add modulo the order; every
other integer is refused. -/
theorem multiply_eq_repeatedSum :
    (∀ (k : ℤ) (p : Point), 0 ≤ k → k < 2 ^ 256 → isOnCurve p = true →
      ∃ A q, coordinates A = p ∧ multiply k p = .ok q ∧ q = coordinates (k.toNat • A) ∧
        q = repeatedSum k.toNat p ∧ isOnCurve q = true ∧ ∀ a ∈ q, Reduced a.x ∧ Reduced a.y) ∧
    (∀ a b : ℤ, 0 ≤ a → a < order → 0 ≤ b → b < order →
      ∃ p q, multiply a (some generator) = .ok p ∧ multiply b (some generator) = .ok q ∧
        multiply ((a + b) % order) (some generator) = .ok (add p q)) ∧
    ∀ (k : ℤ) (p : Point), ¬(0 ≤ k ∧ k < 2 ^ 256) →
      multiply k p = .error .scalarRange ∧ Error.scalarRange.kind = .parameter := by
  refine ⟨fun k p h0 hk hp => ?_, fun a b ha0 ha hb0 hb => multiply_add ha0 ha hb0 hb,
    fun k p hk => ⟨?_, rfl⟩⟩
  · obtain ⟨A, rfl⟩ := isOnCurve_iff.mp hp
    have hcurve := isOnCurve_coordinates (k.toNat • A)
    exact ⟨A, _, rfl, multiply_coordinates h0 hk A, rfl, (repeatedSum_coordinates _ A).symm, hcurve,
      reduced_of_isOnCurve hcurve⟩
  · rw [multiply_eq_error_iff, cast_scalarLimit]
    omega

theorem multiply_eq_repeatedSum_generator :
    isOnCurve (some generator) = true ∧
    (∃ A q, coordinates A = some generator ∧ multiply (order + 1) (some generator) = .ok q ∧
      q = coordinates ((order + 1 : ℤ).toNat • A) ∧
      q = repeatedSum (order + 1 : ℤ).toNat (some generator) ∧ isOnCurve q = true ∧
      ∀ a ∈ q, Reduced a.x ∧ Reduced a.y) ∧
    (∃ p q, multiply (order - 1) (some generator) = .ok p ∧ multiply 2 (some generator) = .ok q ∧
      multiply ((order - 1 + 2) % order) (some generator) = .ok (add p q)) ∧
    multiply (2 ^ 256) (some generator) = .error .scalarRange :=
  ⟨isOnCurve_generator,
    multiply_eq_repeatedSum.1 (order + 1) _ (by decide) (by decide) isOnCurve_generator,
    multiply_eq_repeatedSum.2.1 (order - 1) 2 (by decide) (by decide) (by decide) (by decide),
    (multiply_eq_repeatedSum.2.2 (2 ^ 256) _ (by decide)).1⟩

end Airgap.Curve
