import Airgap.Curve.Jacobian
import Airgap.Error

/-!
# Points of the curve

A point is a pair of coordinates, or `none` for the point at infinity. Sums and multiples take any
coordinates; membership is a property of its own, `isOnCurve`.
-/

namespace Airgap.Curve

/-- A pair of coordinates. -/
structure Affine where
  x : Int
  y : Int
  deriving DecidableEq, Repr

/-- A pair of coordinates, or the point at infinity. -/
abbrev Point := Option Affine

/-- The base point. -/
def generator : Affine where
  x := 0x79BE667EF9DCBBAC55A06295CE870B07029BFCDB2DCE28D959F2815B16F81798
  y := 0x483ADA7726A3C4655DA4FBFC0E1108A8FD17B448A68554199C47D08FFB10D4B8

/-- The Jacobian triple of a point, with `z = 1`. -/
def toJacobian : Point → Jacobian
  | none => Jacobian.infinity
  | some p => ⟨p.x, p.y, 1⟩

/-- The point of a Jacobian triple. -/
def ofJacobian (j : Jacobian) : Point :=
  if j.z = 0 then none
  else
    let zinv := power j.z inverseExponent
    let zinv2 := zinv * zinv % fieldPrime
    some ⟨j.x * zinv2 % fieldPrime, j.y * zinv2 * zinv % fieldPrime⟩

/-- Whether reduced coordinates satisfy the equation; the point at infinity is on the curve. -/
def isOnCurve : Point → Bool
  | none => true
  | some p =>
    if 0 ≤ p.x ∧ p.x < fieldPrime ∧ 0 ≤ p.y ∧ p.y < fieldPrime then
      (p.y * p.y - p.x * p.x * p.x - coefficient) % fieldPrime = 0
    else false

theorem isOnCurve_generator : isOnCurve (some generator) = true := by decide

/-- The sum of two points. -/
def add (p q : Point) : Point := ofJacobian ((toJacobian p).add (toJacobian q))

/-- The multiple of a point by a scalar of at most 256 bits. -/
def multiple (k : Nat) (p : Point) : Point :=
  ofJacobian (Jacobian.ladder k scalarBits Jacobian.infinity (toJacobian p))

/-- The multiple of a point by an integer, which must be such a scalar. -/
def multiply (k : Int) (p : Point) : Except Error Point :=
  if 0 ≤ k ∧ k < scalarLimit then .ok (multiple k.toNat p) else .error .scalarRange

theorem multiply_eq_error_iff (k : Int) (p : Point) :
    multiply k p = .error .scalarRange ↔ k < 0 ∨ scalarLimit ≤ k := by
  rw [multiply]
  split
  · exact ⟨fun h => (nomatch h), fun h => by omega⟩
  · exact ⟨fun _ => by omega, fun _ => rfl⟩

end Airgap.Curve
