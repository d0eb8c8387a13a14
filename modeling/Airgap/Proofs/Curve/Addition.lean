import Airgap.Proofs.Curve.Group
import Mathlib.Data.Int.ModEq

/-!
# Adding points

The sum of points is computed on Jacobian triples, of which many stand for one point.

* `Jacobian.StandsFor`: a triple of integers and the point that it scales; `standsFor_iff` ties it to
  the elements of the group.
* `ordinate_ne_zero`: minus seven is not a cube, so that no point lies on the axis of abscissas;
  `coordinates_neg`: the inverse of a point is its mirror image.
* `add_chordAndTangent`: sums and doubles of triples and of points.
-/

namespace Airgap.Curve

open WeierstrassCurve.Affine

/-! ## Triples and points -/

theorem modEq_iff_residue {a b : ℤ} : a ≡ b [ZMOD fieldPrime] ↔ (a : Residue) = b := by
  rw [fieldPrime_eq, ZMod.intCast_eq_intCast_iff]

namespace Jacobian

/-- All three coordinates are reduced. -/
structure IsReduced (j : Jacobian) : Prop where
  x : Reduced j.x
  y : Reduced j.y
  z : Reduced j.z

/-- The triple stands for the point: for infinity if `z = 0`, and otherwise for the pair whose
coordinates are scaled by the square and the cube of `z`. -/
def StandsFor (j : Jacobian) : Point → Prop
  | none => j.z = 0
  | some a => j.z ≠ 0 ∧ j.x ≡ a.x * j.z ^ 2 [ZMOD fieldPrime] ∧ j.y ≡ a.y * j.z ^ 3 [ZMOD fieldPrime]

theorem IsReduced.scales_iff {j : Jacobian} (h : j.IsReduced) {x y : Residue} :
    j.Scales x y ↔ j.StandsFor (some ⟨x.val, y.val⟩) := by
  simp only [StandsFor, modEq_iff_residue, Int.cast_mul, Int.cast_pow, residue_val]
  constructor
  · intro hj
    exact ⟨hj.ne_zero, hj.x_eq, hj.y_eq⟩
  · intro hj
    exact ⟨h.x, h.y, h.z, (residue_eq_zero h.z).not.mpr hj.1, hj.2.1, hj.2.2⟩

/-- **A reduced triple stands for a point** if it represents the element of the group. -/
theorem IsReduced.standsFor_iff {j : Jacobian} (h : j.IsReduced) {A : Group} :
    j.StandsFor (coordinates A) ↔ j.Represents A := by
  cases A with
  | zero =>
    constructor
    · intro hz
      exact .infinity hz
    · intro hj
      cases hj with
      | infinity hz => exact hz
  | some x y hA =>
    constructor
    · intro hj
      exact .affine hA (h.scales_iff.mpr hj)
    · intro hj
      cases hj with
      | affine _ hs => exact h.scales_iff.mp hs

theorem isReduced_infinity : infinity.IsReduced := ⟨by decide, by decide, by decide⟩

theorem isReduced_double (j : Jacobian) : j.double.IsReduced := by
  unfold double
  split
  · exact isReduced_infinity
  · exact ⟨reduced_emod _, reduced_emod _, reduced_emod _⟩

theorem IsReduced.add {i j : Jacobian} (hi : i.IsReduced) (hj : j.IsReduced) :
    (i.add j).IsReduced := by
  unfold Jacobian.add
  split
  · exact hj
  · split
    · exact hi
    · dsimp only
      split
      · split
        · exact isReduced_infinity
        · exact isReduced_double i
      · exact ⟨reduced_emod _, reduced_emod _, reduced_emod _⟩

end Jacobian

/-! ## Mirror images -/

/-- The exponent that tells the cubes, a third of the order of the units. -/
def cubicExponent : ℕ := (fieldSize - 1) / 3

theorem cubicExponent_mul_three : 3 * cubicExponent = fieldSize - 1 := by decide

/-- Minus seven is not a cube. -/
theorem pow_three_ne_neg_seven (x : Residue) : x ^ 3 ≠ -7 := by
  intro hcube
  have hseven : (7 : Residue) ≠ 0 := by
    have h : Reduced 7 := by decide
    exact_mod_cast (residue_eq_zero h).not.mpr (by decide)
  have hx : x ≠ 0 := by
    rintro rfl
    rw [zero_pow three_ne_zero, eq_comm, neg_eq_zero] at hcube
    exact hseven hcube
  have hone : (-7 : Residue) ^ cubicExponent = 1 := by
    rw [← hcube, ← pow_mul, cubicExponent_mul_three, ZMod.pow_card_sub_one_eq_one hx]
  -- the power is computed; it is a primitive cube root of one
  have hpower : power (-7) cubicExponent ≠ 1 := by
    set_option maxRecDepth 20000 in decide
  apply hpower
  apply (residue_inj (reduced_power _ _) (by decide)).mp
  rw [residue_power _ (by decide)]
  exact_mod_cast hone

theorem ordinate_ne_zero {x y : Residue} (h : curve.Nonsingular x y) : y ≠ 0 := by
  rintro rfl
  apply pow_three_ne_neg_seven x
  linear_combination -nonsingular_iff_eq.mp h

/-- **The inverse of a point** is its mirror image. -/
theorem coordinates_neg {A : Group} {a : Affine} (ha : coordinates A = some a) :
    coordinates (-A) = some ⟨a.x, fieldPrime - a.y⟩ := by
  cases A with
  | zero => exact absurd ha (by simp [coordinates])
  | some x y h =>
    obtain rfl := Option.some.inj ha
    have hle : y.val ≤ fieldSize := (ZMod.val_lt y).le
    rw [Point.neg_some, coordinates, negY_eq, ZMod.neg_val, if_neg (ordinate_ne_zero h),
      Nat.cast_sub hle, fieldPrime_eq]

theorem isOnCurve_mirror {a : Affine} (h : isOnCurve (some a) = true) :
    isOnCurve (some ⟨a.x, fieldPrime - a.y⟩) = true := by
  obtain ⟨A, hA⟩ := isOnCurve_iff.mp h
  exact isOnCurve_iff.mpr ⟨-A, coordinates_neg hA⟩

/-! ## The law -/

/-- **Addition is the chord-and-tangent law.** Triples of reduced coordinates that stand for points of
the curve are added and doubled to such triples for the sum and the double in the group, whatever
their scales. So the points of the curve are a group under `add`: infinity is its identity, and mirror
images are inverse to each other. -/
theorem add_chordAndTangent :
    (∀ (i j : Jacobian) (p q : Point), isOnCurve p = true → isOnCurve q = true →
      i.IsReduced → j.IsReduced → i.StandsFor p → j.StandsFor q →
      ∃ A B : Group, coordinates A = p ∧ coordinates B = q ∧
        ((i.add j).IsReduced ∧ (i.add j).StandsFor (coordinates (A + B))) ∧
        (i.double.IsReduced ∧ i.double.StandsFor (coordinates (2 • A))) ∧
        add p q = coordinates (A + B)) ∧
    (∀ p q r : Point, isOnCurve p = true → isOnCurve q = true → isOnCurve r = true →
      isOnCurve (add p q) = true ∧ add p q = add q p ∧ add (add p q) r = add p (add q r)) ∧
    (∀ p : Point, isOnCurve p = true → add p none = p ∧ add none p = p) ∧
    ∀ a : Affine, isOnCurve (some a) = true →
      isOnCurve (some ⟨a.x, fieldPrime - a.y⟩) = true ∧
      add (some a) (some ⟨a.x, fieldPrime - a.y⟩) = none ∧
      add (some ⟨a.x, fieldPrime - a.y⟩) (some a) = none := by
  refine ⟨?triples, ?points, ?identity, ?inverse⟩
  case triples =>
    intro i j p q hp hq hi hj hip hjq
    obtain ⟨A, rfl⟩ := isOnCurve_iff.mp hp
    obtain ⟨B, rfl⟩ := isOnCurve_iff.mp hq
    have hA : i.Represents A := hi.standsFor_iff.mp hip
    have hB : j.Represents B := hj.standsFor_iff.mp hjq
    have hsum := hi.add hj
    have hdouble := i.isReduced_double
    refine ⟨A, B, rfl, rfl, ⟨hsum, hsum.standsFor_iff.mpr (hA.add hB)⟩,
      ⟨hdouble, hdouble.standsFor_iff.mpr ?_⟩, add_coordinates A B⟩
    rw [two_nsmul]
    exact hA.double
  case points =>
    intro p q r hp hq hr
    obtain ⟨A, rfl⟩ := isOnCurve_iff.mp hp
    obtain ⟨B, rfl⟩ := isOnCurve_iff.mp hq
    obtain ⟨C, rfl⟩ := isOnCurve_iff.mp hr
    simp only [add_coordinates]
    exact ⟨isOnCurve_coordinates _, by rw [add_comm], by rw [add_assoc]⟩
  case identity =>
    intro p hp
    obtain ⟨A, rfl⟩ := isOnCurve_iff.mp hp
    rw [← coordinates_zero, add_coordinates, add_coordinates, add_zero, zero_add]
    exact ⟨rfl, rfl⟩
  case inverse =>
    intro a ha
    obtain ⟨A, hA⟩ := isOnCurve_iff.mp ha
    rw [← hA, ← coordinates_neg hA, add_coordinates, add_coordinates, add_neg_cancel, neg_add_cancel]
    exact ⟨isOnCurve_coordinates _, rfl, rfl⟩

/-- The base point by two triples, which have to meet as equal points, and its mirror image. -/
theorem add_chordAndTangent_rescaled :
    let i : Jacobian := ⟨generator.x, generator.y, 1⟩
    let j : Jacobian := ⟨4 * generator.x % fieldPrime, 8 * generator.y % fieldPrime, 2⟩
    (isOnCurve (some generator) = true ∧ i.IsReduced ∧ j.IsReduced ∧ i.StandsFor (some generator) ∧
      j.StandsFor (some generator) ∧ ∃ A B : Group, coordinates A = some generator ∧
        coordinates B = some generator ∧
        ((i.add j).IsReduced ∧ (i.add j).StandsFor (coordinates (A + B))) ∧
        (i.double.IsReduced ∧ i.double.StandsFor (coordinates (2 • A))) ∧
        add (some generator) (some generator) = coordinates (A + B)) ∧
    isOnCurve none = true ∧
    add (add (some generator) none) (some generator) =
      add (some generator) (add none (some generator)) ∧
    add (some generator) none = some generator ∧
    add (some generator) (some ⟨generator.x, fieldPrime - generator.y⟩) = none := by
  intro i j
  have hi : i.IsReduced := ⟨by decide, by decide, by decide⟩
  have hj : j.IsReduced := ⟨by decide, by decide, by decide⟩
  have hip : i.StandsFor (some generator) := by
    refine ⟨by decide, ?_, ?_⟩ <;> decide
  have hjp : j.StandsFor (some generator) := by
    refine ⟨by decide, ?_, ?_⟩ <;> decide
  have hg := isOnCurve_generator
  obtain ⟨triples, points, identity, inverse⟩ := add_chordAndTangent
  exact ⟨⟨hg, hi, hj, hip, hjp, triples i j _ _ hg hg hi hj hip hjp⟩, rfl,
    (points _ none _ hg rfl hg).2.2, (identity _ hg).1, (inverse _ hg).2.1⟩

end Airgap.Curve
