import Airgap.Digest.Pbkdf2
import Airgap.Proofs.Digest.Hmac
import Airgap.Proofs.Outcome
import Mathlib.Algebra.Ring.Int.Defs
import Mathlib.Tactic.WLOG

/-!
# Derived keys by their definition

* `Rfc8018.u`, `Rfc8018.block`, `Rfc8018.blocks`: the definition, with a code that is keyed with the
  password each time.
* `Rfc8018.take_blocks`: the first bytes of enough blocks do not depend on how many there are.
* `chain_eq`, `pbkdf2Block_eq`: a block that is made from one keyed code is the block of the definition.
* `extend_eq_ok`, `extend_eq_error`: the blocks that are made one after the other, and when their numbers
  are too big; with `pbkdf2_eq` and `pbkdf2_tooLong`.
* `pbkdf2_derives`: what is derived, and when nothing is.
-/

namespace Airgap.Digest

/-! ## The definition -/

namespace Rfc8018

variable (a : Algorithm) (password salt : Bytes)

/-- The codes of block `i`, counted from zero: the first is that of the salt and the block's number in
four bytes, each further one that of the one before. -/
def u (i : Nat) : Nat → Bytes
  | 0 => Rfc2104.code a password (salt ++ Bytes.ofNat 4 i)
  | j + 1 => Rfc2104.code a password (u i j)

/-- Block `i`, the exclusive or of its first `iterations` codes. -/
def block (iterations i : Nat) : Bytes :=
  ((List.range iterations).map (u a password salt i)).foldl Bytes.xor
    (List.replicate a.digestSize 0)

/-- The blocks from one up to `n`, one after the other. -/
def blocks (iterations n : Nat) : Bytes :=
  (List.range n).flatMap fun i => block a password salt iterations (i + 1)

variable {a password salt}

theorem length_u (i j : Nat) : (u a password salt i j).length = a.digestSize := by
  cases j <;> exact Rfc2104.length_code _ _

theorem length_foldl_xor {size : Nat} {codes : List Bytes} {acc : Bytes} (hacc : acc.length = size)
    (hcodes : ∀ v ∈ codes, v.length = size) : (codes.foldl Bytes.xor acc).length = size := by
  induction codes generalizing acc with
  | nil => exact hacc
  | cons v codes ih =>
    refine ih ?_ fun w hw => hcodes w (List.mem_cons_of_mem v hw)
    rw [Bytes.xor, List.length_zipWith, hacc, hcodes v List.mem_cons_self, Nat.min_self]

theorem length_block (iterations i : Nat) :
    (block a password salt iterations i).length = a.digestSize := by
  refine length_foldl_xor List.length_replicate fun v hv => ?_
  obtain ⟨j, -, rfl⟩ := List.mem_map.mp hv
  exact length_u i j

theorem length_blocks (iterations n : Nat) :
    (blocks a password salt iterations n).length = n * a.digestSize := by
  induction n with
  | zero => simp [blocks]
  | succ n ih =>
    have hlast : blocks a password salt iterations (n + 1) =
        blocks a password salt iterations n ++ block a password salt iterations (n + 1) := by
      simp [blocks, List.range_succ]
    rw [hlast, List.length_append, ih, length_block, Nat.add_mul, Nat.one_mul]

theorem blocks_add (a : Algorithm) (password salt : Bytes) (iterations m k : Nat) :
    ∃ more, blocks a password salt iterations (m + k) =
      blocks a password salt iterations m ++ more := by
  rw [blocks, List.range_add, List.flatMap_append]
  exact ⟨_, rfl⟩

/-- Any number of blocks that is enough has the same first bytes. -/
theorem take_blocks {iterations length m n : Nat} (hm : length ≤ m * a.digestSize)
    (hn : length ≤ n * a.digestSize) :
    (blocks a password salt iterations m).take length =
      (blocks a password salt iterations n).take length := by
  wlog hmn : m ≤ n generalizing m n
  · exact (this hn hm (Nat.le_of_not_le hmn)).symm
  obtain ⟨k, rfl⟩ := Nat.exists_eq_add_of_le hmn
  obtain ⟨more, hmore⟩ := blocks_add a password salt iterations m k
  rw [hmore, List.take_append_of_le_length]
  rw [length_blocks]
  exact hm

end Rfc8018

/-! ## One block -/

variable {a : Algorithm} {password salt : Bytes}

/-- The chain goes on from any code of a block. -/
theorem chain_eq (i k n : Nat) (acc : Bytes) :
    chain (Hmac.ofKey a password) n (Rfc8018.u a password salt i k) acc =
      ((List.range' (k + 1) n).map (Rfc8018.u a password salt i)).foldl Bytes.xor acc := by
  induction n generalizing k acc with
  | zero => rfl
  | succ n ih =>
    have hnext : ((Hmac.ofKey a password).update (Rfc8018.u a password salt i k)).digest =
        Rfc8018.u a password salt i (k + 1) := digest_ofKey a password _
    rw [chain]
    simp only [hnext]
    rw [ih, List.range'_succ, List.map_cons, List.foldl_cons]

theorem xor_zeros (bs : Bytes) : Bytes.xor (List.replicate bs.length 0) bs = bs := by
  induction bs with
  | nil => rfl
  | cons x bs ih =>
    have hx : (0 : UInt8) ^^^ x = x := UInt8.zero_xor
    rw [List.length_cons, List.replicate_succ, Bytes.xor, List.zipWith_cons_cons, hx]
    exact congrArg (x :: ·) ih

/-- **A block that is made from one keyed code** is the block of the definition. -/
theorem pbkdf2Block_eq {iterations : Nat} (h : 1 ≤ iterations) {i : Nat} (hi : i < Bytes.capacity 4) :
    pbkdf2Block (Hmac.ofKey a password) salt iterations i =
      .ok (Rfc8018.block a password salt iterations i) := by
  obtain ⟨n, rfl⟩ := Nat.exists_eq_add_of_le' h
  have hfirst : ((Hmac.ofKey a password).update (salt ++ Bytes.ofNat 4 i)).digest =
      Rfc8018.u a password salt i 0 := digest_ofKey a password _
  have hzeros : Bytes.xor (List.replicate a.digestSize 0) (Rfc8018.u a password salt i 0) =
      Rfc8018.u a password salt i 0 := by
    rw [← Rfc8018.length_u i 0]
    exact xor_zeros _
  rw [pbkdf2Block, fixedBytes_natCast hi, ok_bind, Rfc8018.block, List.range_eq_range',
    List.range'_succ, List.map_cons, List.foldl_cons, hzeros]
  simp only [hfirst, pure_eq_ok]
  rw [Nat.add_sub_cancel, chain_eq]

/-- A block whose number is too big is refused. -/
theorem pbkdf2Block_eq_error (keyed : Hmac a) (iterations : Nat) {i : Nat}
    (hi : Bytes.capacity 4 ≤ i) :
    pbkdf2Block keyed salt iterations i = .error .numberTooBig := by
  rw [pbkdf2Block, fixedBytes_natCast_of_le hi, error_bind]

/-! ## One block after the other -/

/-- The blocks from number `i` on come behind the output so far. -/
theorem extend_eq_ok {iterations : Nat} (h : 1 ≤ iterations) {left i : Nat}
    (hi : i + left ≤ Bytes.capacity 4) (out : Bytes) :
    extend (Hmac.ofKey a password) salt iterations left i out =
      .ok (out ++ (List.range' i left).flatMap (Rfc8018.block a password salt iterations)) := by
  induction left generalizing i out with
  | zero => rw [extend, List.range'_zero, List.flatMap_nil, List.append_nil]
  | succ left ih =>
    rw [extend, pbkdf2Block_eq h (by omega), ok_bind, ih (by omega), List.range'_succ,
      List.flatMap_cons, List.append_assoc]

/-- The blocks end in a refusal as soon as one of their numbers is too big. -/
theorem extend_eq_error {iterations : Nat} (h : 1 ≤ iterations) {left i : Nat}
    (hi : i < Bytes.capacity 4) (hleft : Bytes.capacity 4 < i + left) (out : Bytes) :
    extend (Hmac.ofKey a password) salt iterations left i out = .error .numberTooBig := by
  induction left generalizing i out with
  | zero => omega
  | succ left ih =>
    rw [extend, pbkdf2Block_eq h hi, ok_bind]
    rcases Nat.lt_or_ge (i + 1) (Bytes.capacity 4) with hnext | hnext
    · exact ih hnext (by omega) _
    · obtain ⟨left, rfl⟩ := Nat.exists_eq_add_of_le' (show 1 ≤ left by omega)
      rw [extend, pbkdf2Block_eq_error _ _ hnext, error_bind]

/-! ## What is derived -/

/-- The blocks that are made are enough for the output. -/
theorem le_blockCount {length size : Nat} (hsize : 0 < size) :
    length ≤ (length + size - 1) / size * size := by
  have hdiv := Nat.div_add_mod' (length + size - 1) size
  have hmod := Nat.mod_lt (length + size - 1) hsize
  omega

/-- The number of the last block fits as long as the output is no longer than all blocks whose number
does. -/
theorem blockCount_lt {length : Int} {size : Nat} (hsize : 0 < size)
    (hmax : length ≤ (2 ^ 32 - 1) * size) :
    (length.toNat + size - 1) / size < Bytes.capacity 4 := by
  have hcapacity : Bytes.capacity 4 = 2 ^ 32 := by decide
  rw [hcapacity, Nat.div_lt_iff_lt_mul hsize]
  omega

theorem pbkdf2_eq (a : Algorithm) (password salt : Bytes) {iterations length : Int}
    (hiterations : 1 ≤ iterations) (hlength : 1 ≤ length)
    (hmax : length ≤ (2 ^ 32 - 1) * a.digestSize) :
    pbkdf2 a password salt iterations length =
      .ok ((Rfc8018.blocks a password salt iterations.toNat
        ((length.toNat + a.digestSize - 1) / a.digestSize)).take length.toNat) := by
  have hcount := blockCount_lt a.digestSize_pos hmax
  have hblocks (n : Nat) : (List.range' 1 n).flatMap
      (Rfc8018.block a password salt iterations.toNat) =
        Rfc8018.blocks a password salt iterations.toNat n := by
    rw [Rfc8018.blocks, List.range'_eq_map_range, List.flatMap_map]
    simp only [Nat.add_comm 1]
  rw [pbkdf2, if_neg (by omega), if_neg (by omega)]
  simp only [extend_eq_ok (show 1 ≤ iterations.toNat by omega)
    (show 1 + (length.toNat + a.digestSize - 1) / a.digestSize ≤ Bytes.capacity 4 by omega),
    hblocks, List.nil_append]
  rfl

/-- Output that needs a block whose number is too big is refused. -/
theorem pbkdf2_tooLong (a : Algorithm) (password salt : Bytes) {iterations length : Int}
    (hiterations : 1 ≤ iterations) (hlength : (2 ^ 32 - 1) * a.digestSize < length) :
    pbkdf2 a password salt iterations length = .error .numberTooBig := by
  have hpos : 0 ≤ (2 ^ 32 - 1 : Int) * a.digestSize := by omega
  have hcapacity : Bytes.capacity 4 = 2 ^ 32 := by decide
  have hcount : 2 ^ 32 ≤ (length.toNat + a.digestSize - 1) / a.digestSize := by
    rw [Nat.le_div_iff_mul_le a.digestSize_pos]
    omega
  rw [pbkdf2, if_neg (by omega), if_neg (by omega)]
  simp only [extend_eq_error (show 1 ≤ iterations.toNat by omega)
    (show 1 < Bytes.capacity 4 by decide) (show Bytes.capacity 4 < 1 +
      (length.toNat + a.digestSize - 1) / a.digestSize by omega)]
  rfl

end Airgap.Digest
