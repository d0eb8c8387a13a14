import Airgap.Bytes

/-!
# Bits

Bit sequences with the most significant bit first.

* `bitsOf width n`: the low bits of an integer, negative numbers in two's complement.
* `byteBits`: the bits of a byte string.
-/

namespace Airgap.Entropy

/-- The `width` low bits of an integer, most significant first, in front of further bits. -/
def bitsOnto : Nat → Int → List Bool → List Bool
  | 0, _, rest => rest
  | width + 1, n, rest => bitsOnto width (n / 2) ((n % 2 == 1) :: rest)

/-- The `width` low bits of an integer, most significant first. -/
def bitsOf (width : Nat) (n : Int) : List Bool := bitsOnto width n []

theorem bitsOnto_eq (width : Nat) (n : Int) (rest : List Bool) :
    bitsOnto width n rest = bitsOf width n ++ rest := by
  induction width generalizing n rest with
  | zero => rfl
  | succ width ih => rw [bitsOf, bitsOnto, bitsOnto, ih, ih _ [_], List.append_assoc]; rfl

@[simp] theorem bitsOf_zero (n : Int) : bitsOf 0 n = [] := rfl

/-- The lowest bit comes last. -/
theorem bitsOf_succ (width : Nat) (n : Int) :
    bitsOf (width + 1) n = bitsOf width (n / 2) ++ [n % 2 == 1] := by
  rw [bitsOf, bitsOnto, bitsOnto_eq]

theorem length_bitsOf (width : Nat) (n : Int) : (bitsOf width n).length = width := by
  induction width generalizing n with
  | zero => rfl
  | succ width ih => rw [bitsOf_succ, List.length_append, ih]; rfl

/-- The bits of a byte string. -/
def byteBits (bs : Bytes) : List Bool := bs.flatMap fun b => bitsOf 8 b.toNat

theorem length_byteBits (bs : Bytes) : (byteBits bs).length = 8 * bs.length := by
  induction bs with
  | nil => rfl
  | cons b bs ih =>
    simp only [byteBits, List.flatMap_cons, List.length_append, length_bitsOf,
      List.length_cons] at ih ⊢
    omega

end Airgap.Entropy
