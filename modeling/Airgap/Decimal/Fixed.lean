/-!
# Fixed-point decimals of floating-point numbers

A double is exactly `m · 2 ^ e`. Its text with a fixed number of places is the nearest decimal of
that many places, and of two equally near ones the one with an even last digit.

* `roundHalfEven num den`: the integer nearest a quotient.
* `fixed places x`: the text of a double.
-/

namespace Airgap.Decimal

/-- The integer nearest `num / den`; halfway between two, the even one. -/
def roundHalfEven (num den : Nat) : Nat :=
  let q := num / den
  let r := num % den
  if 2 * r < den then q
  else if den < 2 * r then q + 1
  else q + q % 2

/-- A finite double taken apart: its sign, and `m`, `e` with the value `m · 2 ^ (e - 1074)`. -/
structure Parts where
  negative : Bool
  significand : Nat
  exponent : Nat

/-- The leading bit of a significand of 53 bits, which is not stored. -/
def hiddenBit : Nat := 1 <<< 52

/-- The parts of the double with the given bits, if it is finite. -/
def parts? (bits : Nat) : Option Parts :=
  let fraction := bits % hiddenBit
  let biased := (bits >>> 52) % 2048
  let negative := (bits >>> 63) % 2 = 1
  if biased = 2047 then none
  else if biased = 0 then some ⟨negative, fraction, 0⟩
  else some ⟨negative, hiddenBit + fraction, biased - 1⟩

/-- A natural number of units of the last place, with a point before the last `places` digits. -/
def pointed (places units : Nat) : List Char :=
  let digits := Nat.toDigits 10 units
  let padded := List.replicate (places + 1 - digits.length) '0' ++ digits
  padded.take (padded.length - places) ++ '.' :: padded.drop (padded.length - places)

/-- A finite double with a fixed number of decimal places. -/
def Parts.fixed (places : Nat) (p : Parts) : List Char :=
  let units := roundHalfEven ((p.significand <<< p.exponent) * Nat.pow 10 places) (1 <<< 1074)
  (if p.negative then ['-'] else []) ++ pointed places units

/-- The text of a double with a fixed number of decimal places. -/
def fixed (places : Nat) (x : Float) : String :=
  match parts? x.toBits.toNat with
  | some p => String.ofList (p.fixed places)
  | none => if x.isNaN then "nan" else if x < 0 then "-inf" else "inf"

end Airgap.Decimal
