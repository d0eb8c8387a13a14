import Airgap.Curve.Field

/-!
# Jacobian coordinates

A triple with `z ≠ 0` stands for the affine point `(x / z², y / z³)`; a triple with `z = 0` is the
point at infinity.

* `Jacobian.double`, `Jacobian.add`.
* `ladder`: the Montgomery ladder, one addition and one doubling for each bit of the scalar.
-/

namespace Airgap.Curve

/-- A point in Jacobian coordinates. -/
structure Jacobian where
  x : Int
  y : Int
  z : Int
  deriving DecidableEq, Repr

namespace Jacobian

/-- The point at infinity. -/
def infinity : Jacobian := ⟨1, 1, 0⟩

/-- Twice a point. -/
def double (p : Jacobian) : Jacobian :=
  if p.z = 0 ∨ p.y = 0 then infinity
  else
    let ysq := p.y * p.y % fieldPrime
    let s := 4 * p.x * ysq % fieldPrime
    let m := 3 * p.x * p.x % fieldPrime
    let x := (m * m - 2 * s) % fieldPrime
    let y := (m * (s - x) - 8 * ysq * ysq) % fieldPrime
    let z := 2 * p.y * p.z % fieldPrime
    ⟨x, y, z⟩

/-- The sum of two points. -/
def add (p q : Jacobian) : Jacobian :=
  if p.z = 0 then q
  else if q.z = 0 then p
  else
    let z1sq := p.z * p.z % fieldPrime
    let z2sq := q.z * q.z % fieldPrime
    let u1 := p.x * z2sq % fieldPrime
    let u2 := q.x * z1sq % fieldPrime
    let s1 := p.y * z2sq * q.z % fieldPrime
    let s2 := q.y * z1sq * p.z % fieldPrime
    if u1 = u2 then
      if s1 ≠ s2 then infinity else double p
    else
      let h := (u2 - u1) % fieldPrime
      let r := (s2 - s1) % fieldPrime
      let h2 := h * h % fieldPrime
      let h3 := h * h2 % fieldPrime
      let u1h2 := u1 * h2 % fieldPrime
      let x := (r * r - h3 - 2 * u1h2) % fieldPrime
      let y := (r * (u1h2 - x) - s1 * h3) % fieldPrime
      let z := h * p.z * q.z % fieldPrime
      ⟨x, y, z⟩

@[simp] theorem add_infinity_left (q : Jacobian) : add infinity q = q := rfl

/-- Steps the pair `(m · p, (m + 1) · p)` through the low `n` bits of `k`, from the top. -/
def ladder (k : Nat) : Nat → Jacobian → Jacobian → Jacobian
  | 0, r, _ => r
  | n + 1, r, s =>
    if k.testBit n then ladder k n (add r s) (double s)
    else ladder k n (double r) (add r s)

end Jacobian

end Airgap.Curve
