import Airgap.Curve.Point
import Airgap.Proofs.Curve.Residue
import Mathlib.AlgebraicGeometry.EllipticCurve.Affine.Point
import Mathlib.Tactic.FieldSimp

/-!
# The group of the curve

The points on the curve are the group of `y² = x³ + 7` over the residues, and Jacobian triples
compute its law: `Represents j A` says that the triple `j` stands for the group element `A`.

* `isOnCurve_iff`: the points on the curve are the coordinates of the group's elements.
* `Represents.double`, `Represents.add`: the triples of `A + A` and `A + B`, in every case.
* `add_coordinates`: the sum of points on the curve is the sum in the group.
-/

namespace Airgap.Curve

open WeierstrassCurve.Affine

/-- The curve `y² = x³ + 7`. -/
def curve : WeierstrassCurve.Affine Residue := ⟨0, 0, 0, 0, 7⟩

/-- The points of the curve, as a group under the chord-and-tangent law. -/
abbrev Group : Type := curve.Point

theorem equation_iff_eq {x y : Residue} : curve.Equation x y ↔ y ^ 2 = x ^ 3 + 7 := by
  rw [equation_iff]
  simp [curve]

theorem discriminant_ne_zero : curve.Δ ≠ 0 := by
  have h : Reduced 21168 := by decide
  have hne : (21168 : Residue) ≠ 0 := by exact_mod_cast (residue_eq_zero h).not.mpr (by decide)
  have hd : curve.Δ = -21168 := by
    simp only [WeierstrassCurve.Δ, WeierstrassCurve.b₂, WeierstrassCurve.b₄, WeierstrassCurve.b₆,
      WeierstrassCurve.b₈, curve]
    ring
  rw [hd]
  exact neg_ne_zero.mpr hne

theorem nonsingular_iff_eq {x y : Residue} : curve.Nonsingular x y ↔ y ^ 2 = x ^ 3 + 7 := by
  rw [← equation_iff_nonsingular_of_Δ_ne_zero discriminant_ne_zero, equation_iff_eq]

@[simp] theorem negY_eq (x y : Residue) : curve.negY x y = -y := by simp [negY, curve]

/-! ## Coordinates -/

/-- The coordinates of an element of the group. -/
def coordinates : Group → Point
  | .zero => none
  | .some x y _ => some ⟨x.val, y.val⟩

@[simp] theorem coordinates_zero : coordinates 0 = none := rfl

theorem coordinates_injective : Function.Injective coordinates := by
  intro A B h
  cases A with
  | zero =>
    cases B with
    | zero => rfl
    | some x y hB => exact absurd h (by simp [coordinates])
  | some x y hA =>
    cases B with
    | zero => exact absurd h (by simp [coordinates])
    | some x' y' hB =>
      simp only [coordinates, Option.some.injEq, Affine.mk.injEq, Nat.cast_inj] at h
      obtain rfl := ZMod.val_injective _ h.1
      obtain rfl := ZMod.val_injective _ h.2
      rfl

theorem coordinates_eq_none {A : Group} : coordinates A = none ↔ A = 0 := by
  rw [← coordinates_zero, coordinates_injective.eq_iff]

theorem isOnCurve_coordinates (A : Group) : isOnCurve (coordinates A) = true := by
  cases A with
  | zero => rfl
  | some x y h =>
    have hx := reduced_val x
    have hy := reduced_val y
    have heq := nonsingular_iff_eq.mp h
    simp only [coordinates, isOnCurve]
    rw [if_pos ⟨hx.1, hx.2, hy⟩, decide_eq_true_eq]
    refine (residue_eq_zero (reduced_emod _)).mp ?_
    simp only [residue_emod, Int.cast_sub, Int.cast_mul, residue_val, coefficient, Int.cast_ofNat]
    linear_combination heq

/-- **The points on the curve are the elements of the group.** -/
theorem isOnCurve_iff {p : Point} : isOnCurve p = true ↔ ∃ A : Group, coordinates A = p := by
  refine ⟨fun h => ?_, ?_⟩
  · cases p with
    | none => exact ⟨0, rfl⟩
    | some a =>
      simp only [isOnCurve] at h
      split at h
      · rename_i hr
        rw [decide_eq_true_eq, ← residue_eq_zero (reduced_emod _)] at h
        simp only [residue_emod, Int.cast_sub, Int.cast_mul, coefficient, Int.cast_ofNat] at h
        have heq : (a.y : Residue) ^ 2 = (a.x : Residue) ^ 3 + 7 := by linear_combination h
        refine ⟨.some _ _ (nonsingular_iff_eq.mpr heq), ?_⟩
        rw [coordinates, val_residue ⟨hr.1, hr.2.1⟩, val_residue hr.2.2]
      · exact absurd h Bool.false_ne_true
  · rintro ⟨A, rfl⟩
    exact isOnCurve_coordinates A

/-- The coordinates of an element are reduced and satisfy the equation. -/
theorem of_coordinates {A : Group} {a : Affine} (h : coordinates A = some a) :
    Reduced a.x ∧ Reduced a.y ∧ (a.y : Residue) ^ 2 = (a.x : Residue) ^ 3 + 7 := by
  cases A with
  | zero => exact absurd h (by simp [coordinates])
  | some x y hxy =>
    obtain rfl := Option.some.inj h
    refine ⟨reduced_val x, reduced_val y, ?_⟩
    rw [residue_val, residue_val]
    exact nonsingular_iff_eq.mp hxy

/-- The coordinates of a point on the curve are reduced and satisfy the equation. -/
theorem of_isOnCurve {a : Affine} (h : isOnCurve (some a) = true) :
    Reduced a.x ∧ Reduced a.y ∧ (a.y : Residue) ^ 2 = (a.x : Residue) ^ 3 + 7 := by
  obtain ⟨A, hA⟩ := isOnCurve_iff.mp h
  exact of_coordinates hA

/-! ## Jacobian triples -/

/-- The triple `j` scales the coordinates `x` and `y` by the square and the cube of `z ≠ 0`. -/
structure Jacobian.Scales (j : Jacobian) (x y : Residue) : Prop where
  reduced_x : Reduced j.x
  reduced_y : Reduced j.y
  reduced_z : Reduced j.z
  z_ne_zero : (j.z : Residue) ≠ 0
  x_eq : (j.x : Residue) = x * (j.z : Residue) ^ 2
  y_eq : (j.y : Residue) = y * (j.z : Residue) ^ 3

/-- The triple `j` stands for the element `A` of the group. -/
inductive Jacobian.Represents (j : Jacobian) : Group → Prop
  | infinity (hz : j.z = 0) : j.Represents 0
  | affine {x y : Residue} (h : curve.Nonsingular x y) (hj : j.Scales x y) : j.Represents (.some x y h)

namespace Jacobian

theorem represents_infinity : infinity.Represents 0 := .infinity rfl

theorem Scales.ne_zero {j : Jacobian} {x y : Residue} (h : j.Scales x y) : j.z ≠ 0 :=
  fun hz => h.z_ne_zero (by rw [hz, Int.cast_zero])

/-- The ordinate of the triple vanishes with the ordinate of the point. -/
theorem Scales.y_eq_zero {j : Jacobian} {x y : Residue} (h : j.Scales x y) : j.y = 0 ↔ y = 0 := by
  rw [← residue_eq_zero h.reduced_y, h.y_eq, mul_eq_zero, or_iff_left (pow_ne_zero 3 h.z_ne_zero)]

/-- **Doubling a triple doubles its element.** -/
theorem Represents.double {j : Jacobian} {A : Group} (h : j.Represents A) :
    j.double.Represents (A + A) := by
  cases h with
  | infinity hz =>
    rw [Jacobian.double, if_pos (.inl hz), add_zero]
    exact represents_infinity
  | @affine x y hA hj =>
    have hz := hj.z_ne_zero
    rw [Jacobian.double]
    by_cases hy : y = 0
    · rw [if_pos (.inr (hj.y_eq_zero.mpr hy)), Point.add_self_of_Y_eq (by rw [negY_eq, hy, neg_zero])]
      exact represents_infinity
    · have hne : y ≠ curve.negY x y := by
        rw [negY_eq]
        intro he
        have h2 : 2 * y = 0 := by linear_combination he
        exact (mul_ne_zero two_ne_zero_residue hy) h2
      rw [if_neg (not_or.mpr ⟨hj.ne_zero, fun h0 => hy (hj.y_eq_zero.mp h0)⟩),
        Point.add_self_of_Y_ne hne]
      have h2 := two_ne_zero_residue
      have hslope : curve.slope x x y y = 3 * x ^ 2 / (2 * y) := by
        rw [slope_of_Y_ne rfl hne, negY_eq]
        simp only [curve]
        ring_nf
      refine .affine _ ⟨reduced_emod _, reduced_emod _, reduced_emod _, ?_, ?_, ?_⟩
      · simp only [residue_emod, Int.cast_mul, Int.cast_ofNat, hj.y_eq]
        positivity
      · simp only [residue_emod, Int.cast_mul, Int.cast_sub, Int.cast_ofNat, hj.x_eq, hj.y_eq, addX,
          hslope]
        simp only [curve]
        field_simp
        ring
      · simp only [residue_emod, Int.cast_mul, Int.cast_sub, Int.cast_ofNat, hj.x_eq, hj.y_eq, addX,
          addY, negAddY, negY_eq, hslope]
        simp only [curve]
        field_simp
        ring

/-- The abscissas of two triples, brought to one scale, agree when those of their points do. -/
theorem scaledX_eq_iff {i j : Jacobian} {x₁ y₁ x₂ y₂ : Residue} (hi : i.Scales x₁ y₁)
    (hj : j.Scales x₂ y₂) :
    i.x * (j.z * j.z % fieldPrime) % fieldPrime = j.x * (i.z * i.z % fieldPrime) % fieldPrime ↔
      x₁ = x₂ := by
  have hz := mul_ne_zero (pow_ne_zero 2 hi.z_ne_zero) (pow_ne_zero 2 hj.z_ne_zero)
  rw [← residue_inj (reduced_emod _) (reduced_emod _)]
  simp only [residue_emod, Int.cast_mul, hi.x_eq, hj.x_eq]
  refine Iff.trans ?_ (mul_left_inj' hz)
  constructor <;> intro h <;> linear_combination h

/-- The ordinates of two triples, brought to one scale, agree when those of their points do. -/
theorem scaledY_eq_iff {i j : Jacobian} {x₁ y₁ x₂ y₂ : Residue} (hi : i.Scales x₁ y₁)
    (hj : j.Scales x₂ y₂) :
    i.y * (j.z * j.z % fieldPrime) * j.z % fieldPrime =
      j.y * (i.z * i.z % fieldPrime) * i.z % fieldPrime ↔ y₁ = y₂ := by
  have hz := mul_ne_zero (pow_ne_zero 3 hi.z_ne_zero) (pow_ne_zero 3 hj.z_ne_zero)
  rw [← residue_inj (reduced_emod _) (reduced_emod _)]
  simp only [residue_emod, Int.cast_mul, hi.y_eq, hj.y_eq]
  refine Iff.trans ?_ (mul_left_inj' hz)
  constructor <;> intro h <;> linear_combination h

/-- **Adding triples adds their elements**, in every case: either infinite, opposite points, equal
points and different abscissas. -/
theorem Represents.add {i j : Jacobian} {A B : Group} (hA : i.Represents A) (hB : j.Represents B) :
    (i.add j).Represents (A + B) := by
  cases hA with
  | infinity hz =>
    rw [Jacobian.add, if_pos hz, zero_add]
    exact hB
  | @affine x₁ y₁ h₁ hi =>
    cases hB with
    | infinity hz =>
      rw [Jacobian.add, if_neg hi.ne_zero, if_pos hz, add_zero]
      exact .affine h₁ hi
    | @affine x₂ y₂ h₂ hj =>
      rw [Jacobian.add, if_neg hi.ne_zero, if_neg hj.ne_zero]
      simp only [scaledX_eq_iff hi hj, ne_eq, scaledY_eq_iff hi hj]
      by_cases hx : x₁ = x₂
      · subst hx
        rw [if_pos rfl]
        by_cases hy : y₁ = y₂
        · subst hy
          rw [if_neg (not_not.mpr rfl)]
          exact (Represents.affine h₁ hi).double
        · have hsq : (y₁ - y₂) * (y₁ + y₂) = 0 := by
            linear_combination nonsingular_iff_eq.mp h₁ - nonsingular_iff_eq.mp h₂
          have hopp : y₁ = -y₂ :=
            eq_neg_of_add_eq_zero_left ((mul_eq_zero.mp hsq).resolve_left (sub_ne_zero.mpr hy))
          rw [if_pos hy, Point.add_of_Y_eq rfl (by rw [negY_eq, hopp])]
          exact represents_infinity
      · rw [if_neg hx, Point.add_of_X_ne hx]
        have hz₁ := hi.z_ne_zero
        have hz₂ := hj.z_ne_zero
        have hx12 : x₁ - x₂ ≠ 0 := sub_ne_zero.mpr hx
        have hx21 : x₂ - x₁ ≠ 0 := sub_ne_zero.mpr (Ne.symm hx)
        have hh : x₂ * (j.z : Residue) ^ 2 * (i.z * i.z) - x₁ * (i.z : Residue) ^ 2 * (j.z * j.z) =
            (x₂ - x₁) * (i.z : Residue) ^ 2 * (j.z : Residue) ^ 2 := by ring
        refine .affine _ ⟨reduced_emod _, reduced_emod _, reduced_emod _, ?_, ?_, ?_⟩
        · simp only [residue_emod, Int.cast_mul, Int.cast_sub, hi.x_eq, hj.x_eq, hh]
          positivity
        · simp only [residue_emod, Int.cast_mul, Int.cast_sub, Int.cast_ofNat, hi.x_eq, hj.x_eq,
            hi.y_eq, hj.y_eq, addX, slope_of_X_ne hx]
          simp only [curve]
          field_simp
          ring
        · simp only [residue_emod, Int.cast_mul, Int.cast_sub, Int.cast_ofNat, hi.x_eq, hj.x_eq,
            hi.y_eq, hj.y_eq, addX, addY, negAddY, negY_eq, slope_of_X_ne hx]
          simp only [curve]
          field_simp
          ring

end Jacobian

/-! ## Points -/

theorem represents_toJacobian (A : Group) : (toJacobian (coordinates A)).Represents A := by
  cases A with
  | zero => exact Jacobian.represents_infinity
  | some x y h =>
    have hone : Reduced 1 := by decide
    refine .affine h ⟨reduced_val x, reduced_val y, hone, ?_, ?_, ?_⟩ <;>
      simp [toJacobian, coordinates]

/-- The point of a triple is the element that it stands for. -/
theorem ofJacobian_eq {j : Jacobian} {A : Group} (h : j.Represents A) :
    ofJacobian j = coordinates A := by
  cases h with
  | infinity hz => rw [ofJacobian, if_pos hz, coordinates_zero]
  | @affine x y hA hj =>
    have hz := hj.z_ne_zero
    rw [ofJacobian, if_neg hj.ne_zero, coordinates, Option.some.injEq, Affine.mk.injEq,
      ← residue_inj (reduced_emod _) (reduced_val x), ← residue_inj (reduced_emod _) (reduced_val y)]
    simp only [residue_emod, Int.cast_mul, residue_val, residue_inverse hz, hj.x_eq, hj.y_eq]
    constructor <;> field_simp

/-- **The sum of points on the curve is the sum in the group.** -/
theorem add_coordinates (A B : Group) : add (coordinates A) (coordinates B) = coordinates (A + B) :=
  ofJacobian_eq ((represents_toJacobian A).add (represents_toJacobian B))

end Airgap.Curve
