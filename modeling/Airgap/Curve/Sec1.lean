import Airgap.Curve.Point
import Airgap.Width

/-!
# Points as bytes (SEC 1)

* `compress`: a parity byte and the abscissa, 33 bytes.
* `decompress`: reads that form, or the 65-byte form with both coordinates, and checks membership.
-/

namespace Airgap.Curve

/-- The compressed form of a point: `0x02` or `0x03` by the parity of the ordinate, and the
abscissa. -/
def compress : Point → Except Error Bytes
  | none => .error .infinityEncoding
  | some p => do
    let x ← fixedBytes keySize p.x
    return UInt8.ofNat (2 + p.y % 2).toNat :: x

/-- The coordinates that a byte string claims, before the check that they are on the curve. -/
def readPoint (data : Bytes) : Except Error Affine :=
  match data with
  | [] => .error .pointLength
  | marker :: rest =>
    if data.length = 65 ∧ marker = 4 then
      .ok ⟨Bytes.toNat (rest.take 32), Bytes.toNat (rest.drop 32)⟩
    else if data.length = 33 ∧ (marker = 2 ∨ marker = 3) then
      let x : Int := Bytes.toNat rest
      if fieldPrime ≤ x then .error .coordinateRange
      else
        let y := power ((x * x * x + coefficient) % fieldPrime) rootExponent
        .ok ⟨x, if y % 2 = marker.toNat % 2 then y else fieldPrime - y⟩
    else .error .pointLength

/-- The point of a byte string. -/
def decompress (data : Bytes) : Except Error Affine := do
  let p ← readPoint data
  if isOnCurve (some p) then return p else throw .offCurve

end Airgap.Curve
