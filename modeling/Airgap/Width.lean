import Airgap.Error

/-!
# Numbers of a fixed width

* `fixedBytes w`: an integer is written in `w` big-endian bytes only if it lies in
  `[0, Bytes.capacity w)`.
* `fitsWord`: positions and sizes are signed words of 64 bits; what does not fit is refused before it
  is looked at further.
-/

namespace Airgap

/-- An integer in `w` big-endian bytes. -/
def fixedBytes (w : Nat) (n : Int) : Except Error Bytes :=
  if n < 0 then .error .numberNegative
  else if n < Bytes.capacity w then .ok (Bytes.ofNat w n.toNat)
  else .error .numberTooBig

theorem fixedBytes_natCast {w n : Nat} (h : n < Bytes.capacity w) :
    fixedBytes w n = .ok (Bytes.ofNat w n) := by
  have hn : (n : Int) < Bytes.capacity w := Int.ofNat_lt.mpr h
  rw [fixedBytes, if_neg (by omega), if_pos hn, Int.toNat_natCast]

theorem fixedBytes_natCast_of_le {w n : Nat} (h : Bytes.capacity w ≤ n) :
    fixedBytes w n = .error .numberTooBig := by
  have hn : ¬ (n : Int) < Bytes.capacity w := Int.not_lt.mpr (Int.ofNat_le.mpr h)
  rw [fixedBytes, if_neg (by omega), if_neg hn]

/-! ## Words -/

/-- The first number that is too big for a signed word of 64 bits. -/
abbrev wordLimit : Nat := 0x8000000000000000

/-- Whether an integer is a signed word of 64 bits. -/
def fitsWord (n : Int) : Bool := -(wordLimit : Int) ≤ n ∧ n < wordLimit

/-- The first size in bytes that no memory holds. -/
abbrev memoryLimit : Nat := 0x10000000000

end Airgap
