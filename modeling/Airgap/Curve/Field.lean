/-!
# The field and the group order of secp256k1

Coordinates are integers that are read modulo `fieldPrime`; they need not be reduced.

* `fieldPrime`, `order`, `coefficient`.
* `power`: powers modulo `fieldPrime` by squaring, over a fixed number of bits.
-/

namespace Airgap.Curve

/-- The prime of the field, `2 ^ 256 - 2 ^ 32 - 977`. -/
def fieldPrime : Int := 0xFFFFFFFFFFFFFFFFFFFFFFFFFFFFFFFFFFFFFFFFFFFFFFFFFFFFFFFEFFFFFC2F

/-- The number of points of the curve. -/
def order : Nat := 0xFFFFFFFFFFFFFFFFFFFFFFFFFFFFFFFEBAAEDCE6AF48A03BBFD25E8CD0364141

/-- The constant term of the equation `y² = x³ + 7`. -/
def coefficient : Int := 7

/-- Bits of a scalar. -/
def scalarBits : Nat := 256

/-- The first number that is too big for a scalar. -/
def scalarLimit : Nat := 1 <<< scalarBits

/-- Bytes of a scalar or a coordinate. -/
def keySize : Nat := 32

theorem fieldPrime_pos : 0 < fieldPrime := by decide

theorem order_lt : order < scalarLimit := by decide

/-- Squares `acc` for each of the low `n` bits of `e`, from the top, and multiplies by `b` where the
bit is set. -/
def powerLoop (b : Int) (e : Nat) : Nat → Int → Int
  | 0, acc => acc
  | n + 1, acc =>
    let square := acc * acc % fieldPrime
    powerLoop b e n (if e.testBit n then square * b % fieldPrime else square)

/-- `b ^ e` modulo `fieldPrime`, for an exponent of at most 256 bits. -/
def power (b : Int) (e : Nat) : Int := powerLoop b e scalarBits 1

/-- The exponent that inverts, by Fermat's little theorem. -/
def inverseExponent : Nat := (fieldPrime - 2).toNat

/-- The exponent that takes square roots, since the prime is three more than a multiple of four. -/
def rootExponent : Nat := ((fieldPrime + 1) / 4).toNat

end Airgap.Curve
