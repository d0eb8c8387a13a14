import Airgap.Entropy.Bits
import Airgap.Proofs.Bytes

/-!
# Bits and the numbers that they write

* `bitsDown`: the low bits of a number by `Nat.testBit`; `bitsOf_natCast` says that these are the ones
  of `bitsOf`.
* `number`: the number that bits write, which fixes the bits of one length (`number_inj`).
* `number_byteBits`, `byteBits_ofNat_number`: bytes write the number of their bits, and `byteBits_inj`:
  they are fixed by them.
-/

namespace Airgap.Entropy

/-- The `w` low bits of a number, most significant first. -/
def bitsDown (w n : ℕ) : List Bool := (List.range w).reverse.map n.testBit

theorem length_bitsDown (w n : ℕ) : (bitsDown w n).length = w := by
  rw [bitsDown, List.length_map, List.length_reverse, List.length_range]

theorem getElem_bitsDown {w n i : ℕ} (h : i < (bitsDown w n).length) :
    (bitsDown w n)[i] = n.testBit (w - 1 - i) := by
  simp [bitsDown]

theorem bitsDown_succ (w n : ℕ) : bitsDown (w + 1) n = bitsDown w (n / 2) ++ [n.testBit 0] := by
  have hmap : (List.range w).map (n.testBit ∘ Nat.succ) = (List.range w).map (n / 2).testBit :=
    List.map_congr_left fun i _ => Nat.testBit_succ n i
  rw [bitsDown, bitsDown, List.range_succ_eq_map, List.reverse_cons, List.map_append,
    ← List.map_reverse, List.map_map, List.map_reverse, List.map_reverse, hmap]
  rfl

theorem bitsOf_natCast (w n : ℕ) : bitsOf w n = bitsDown w n := by
  induction w generalizing n with
  | zero => rfl
  | succ w ih =>
    have hlow : ((n : ℤ) % 2 == 1) = n.testBit 0 := by
      rw [Nat.testBit_zero, Bool.eq_iff_iff, beq_iff_eq, decide_eq_true_iff]
      omega
    have hhigh : ((n : ℤ) / 2) = (n / 2 : ℕ) := by omega
    rw [bitsOf_succ, hhigh, ih, hlow, bitsDown_succ]

/-! ## Numbers -/

/-- The number that bits write, most significant first. -/
def number (bits : List Bool) : ℕ := bits.foldl (fun n b => 2 * n + b.toNat) 0

theorem number_concat (bits : List Bool) (b : Bool) :
    number (bits ++ [b]) = 2 * number bits + b.toNat := by
  simp only [number, List.foldl_append, List.foldl_cons, List.foldl_nil]

theorem number_append (xs ys : List Bool) :
    number (xs ++ ys) = number xs * 2 ^ ys.length + number ys := by
  induction ys using List.reverseRecOn with
  | nil => simp [number]
  | append_singleton ys y ih =>
    rw [← List.append_assoc, number_concat, number_concat, ih, List.length_append,
      List.length_singleton, Nat.pow_succ]
    ring

theorem number_replicate_false (n : ℕ) : number (List.replicate n false) = 0 := by
  induction n with
  | zero => rfl
  | succ n ih => rw [List.replicate_succ', number_concat, ih]; rfl

theorem number_lt (bits : List Bool) : number bits < 2 ^ bits.length := by
  induction bits using List.reverseRecOn with
  | nil => decide
  | append_singleton bits b ih =>
    have hb : b.toNat < 2 := b.toNat_lt
    rw [number_concat, List.length_append, List.length_singleton, Nat.pow_succ]
    omega

theorem number_append_shiftRight (xs ys : List Bool) :
    number (xs ++ ys) >>> ys.length = number xs := by
  rw [number_append, Nat.shiftRight_eq_div_pow, Nat.mul_comm,
    Nat.mul_add_div (Nat.two_pow_pos _), Nat.div_eq_of_lt (number_lt ys), Nat.add_zero]

theorem number_shiftLeft (bits : List Bool) (n : ℕ) :
    number bits <<< n = number (bits ++ List.replicate n false) := by
  rw [number_append, number_replicate_false, List.length_replicate, Nat.shiftLeft_eq, Nat.add_zero]

/-- Bits of one length are fixed by the number that they write. -/
theorem number_inj {xs ys : List Bool} (hlen : xs.length = ys.length)
    (h : number xs = number ys) : xs = ys := by
  induction xs using List.reverseRecOn generalizing ys with
  | nil => exact (List.eq_nil_of_length_eq_zero hlen.symm).symm
  | append_singleton xs x ih =>
    cases ys using List.reverseRecOn with
    | nil => exact absurd hlen (by simp)
    | append_singleton ys y =>
      have hx : x.toNat < 2 := x.toNat_lt
      have hy : y.toNat < 2 := y.toNat_lt
      rw [number_concat, number_concat] at h
      rw [List.length_append, List.length_append, List.length_singleton, List.length_singleton,
        Nat.add_right_cancel_iff] at hlen
      have hinj : ∀ x y : Bool, x.toNat = y.toNat → x = y := by decide
      rw [ih hlen (by omega), hinj x y (by omega)]

theorem number_bitsDown (w n : ℕ) : number (bitsDown w n) = n % 2 ^ w := by
  induction w generalizing n with
  | zero => rw [Nat.pow_zero, Nat.mod_one]; rfl
  | succ w ih =>
    have hlow : (n.testBit 0).toNat = n % 2 := by
      rw [Nat.toNat_testBit, Nat.pow_zero, Nat.div_one]
    rw [bitsDown_succ, number_concat, ih, hlow, Nat.pow_succ', Nat.mod_mul, Nat.add_comm]

/-! ## Bytes -/

theorem byteBits_append (as bs : Bytes) : byteBits (as ++ bs) = byteBits as ++ byteBits bs :=
  List.flatMap_append

theorem byteBits_take (bs : Bytes) (k : ℕ) : byteBits (bs.take k) = (byteBits bs).take (8 * k) := by
  have hsplit : byteBits bs = byteBits (bs.take k) ++ byteBits (bs.drop k) := by
    rw [← byteBits_append, List.take_append_drop]
  by_cases hk : k ≤ bs.length
  · have hlen : (byteBits (bs.take k)).length = 8 * k := by
      rw [length_byteBits, List.length_take, Nat.min_eq_left hk]
    rw [hsplit, List.take_left' hlen]
  · rw [List.take_of_length_le (by omega), List.take_of_length_le (by rw [length_byteBits]; omega)]

theorem byteBits_singleton (b : UInt8) : byteBits [b] = bitsDown 8 b.toNat := by
  rw [byteBits, List.flatMap_singleton, bitsOf_natCast]

theorem number_byteBits (bs : Bytes) : number (byteBits bs) = bs.toNat := by
  induction bs using List.reverseRecOn with
  | nil => rfl
  | append_singleton bs b ih =>
    have hb : b.toNat % 2 ^ 8 = b.toNat := Nat.mod_eq_of_lt b.toNat_lt
    rw [byteBits_append, number_append, ih, byteBits_singleton, number_bitsDown, length_bitsDown, hb,
      Bytes.toNat_concat, Nat.mul_comm, show 2 ^ 8 = 256 from rfl]

/-- A byte string is fixed by its bits. -/
theorem byteBits_inj {as bs : Bytes} (h : byteBits as = byteBits bs) : as = bs := by
  have hlen : as.length = bs.length := by
    have hbits := congrArg List.length h
    rw [length_byteBits, length_byteBits] at hbits
    omega
  rw [← Bytes.ofNat_toNat as, ← Bytes.ofNat_toNat bs, ← number_byteBits, ← number_byteBits, h, hlen]

theorem capacity_eq_two_pow (w : ℕ) : Bytes.capacity w = 2 ^ (8 * w) := by
  rw [Bytes.capacity_eq, Nat.pow_mul]

/-- Whole bytes written from the number of their bits have these bits. -/
theorem byteBits_ofNat_number {w : ℕ} {bits : List Bool} (h : bits.length = 8 * w) :
    byteBits (Bytes.ofNat w (number bits)) = bits := by
  have hlt : number bits < Bytes.capacity w := by
    rw [capacity_eq_two_pow, ← h]
    exact number_lt bits
  apply number_inj
  · rw [length_byteBits, Bytes.length_ofNat, h]
  · rw [number_byteBits, Bytes.toNat_ofNat_of_lt hlt]

end Airgap.Entropy
