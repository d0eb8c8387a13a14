/-!
# Byte strings

A byte string is a list of bytes.

* `Bytes.toNat` / `Bytes.ofNat w`: the big-endian numeral, and the `w` bytes that write a number,
  with `toNat_ofNat` (exact below `capacity w`) and `ofNat_toNat`.
* `Bytes.ofNatLE w`: the same bytes, least significant first.
* `Bytes.blocks size n`: the first `n` blocks of `size` bytes.
* `Bytes.toHex`, `Bytes.ofText`, `Bytes.xor`.
-/

namespace Airgap

/-- A byte string. -/
abbrev Bytes := List UInt8

namespace Bytes

/-! ## Numerals -/

/-- The number that `bs` writes in base 256, most significant byte first. -/
def toNat (bs : Bytes) : Nat := bs.foldl (fun n b => 256 * n + b.toNat) 0

/-- The `w` low bytes of `n`, most significant first, in front of further bytes. -/
def ofNatOnto : Nat → Nat → Bytes → Bytes
  | 0, _, rest => rest
  | w + 1, n, rest => ofNatOnto w (n / 256) (UInt8.ofNat n :: rest)

/-- The `w` low bytes of `n`, most significant first. -/
def ofNat (w n : Nat) : Bytes := ofNatOnto w n []

/-- How many numbers `w` bytes can write, `256 ^ w`. -/
def capacity (w : Nat) : Nat := Nat.pow 256 w

/-- The `w` low bytes of `n`, least significant first. -/
def ofNatLE : Nat → Nat → Bytes
  | 0, _ => []
  | w + 1, n => UInt8.ofNat n :: ofNatLE w (n / 256)

@[simp] theorem toNat_nil : toNat [] = 0 := rfl

theorem toNat_concat (bs : Bytes) (b : UInt8) : toNat (bs ++ [b]) = 256 * toNat bs + b.toNat := by
  simp only [toNat, List.foldl_append, List.foldl_cons, List.foldl_nil]

theorem ofNatOnto_eq (w n : Nat) (rest : Bytes) : ofNatOnto w n rest = ofNat w n ++ rest := by
  induction w generalizing n rest with
  | zero => rfl
  | succ w ih => rw [ofNat, ofNatOnto, ofNatOnto, ih, ih _ [_], List.append_assoc]; rfl

@[simp] theorem ofNat_zero (n : Nat) : ofNat 0 n = [] := rfl

/-- The lowest byte comes last. -/
theorem ofNat_succ (w n : Nat) : ofNat (w + 1) n = ofNat w (n / 256) ++ [UInt8.ofNat n] := by
  rw [ofNat, ofNatOnto, ofNatOnto_eq]

@[simp] theorem length_ofNat (w n : Nat) : (ofNat w n).length = w := by
  induction w generalizing n with
  | zero => rfl
  | succ w ih => rw [ofNat_succ, List.length_append, ih]; rfl

@[simp] theorem length_ofNatLE (w n : Nat) : (ofNatLE w n).length = w := by
  induction w generalizing n with
  | zero => rfl
  | succ w ih => rw [ofNatLE, List.length_cons, ih]

theorem reverse_ofNat (w n : Nat) : (ofNat w n).reverse = ofNatLE w n := by
  induction w generalizing n with
  | zero => rfl
  | succ w ih => rw [ofNat_succ, ofNatLE, List.reverse_append, ih]; rfl

theorem capacity_succ (w : Nat) : capacity (w + 1) = 256 * capacity w := Nat.mul_comm _ _

theorem capacity_pos (w : Nat) : 0 < capacity w := Nat.pow_pos (by decide)

theorem toNat_ofNat (w n : Nat) : toNat (ofNat w n) = n % capacity w := by
  induction w generalizing n with
  | zero => rw [ofNat_zero, toNat_nil, show capacity 0 = 1 from rfl, Nat.mod_one]
  | succ w ih =>
    have h : (UInt8.ofNat n).toNat = n % 256 := UInt8.toNat_ofNat'
    rw [ofNat_succ, toNat_concat, ih, h, capacity_succ, Nat.mod_mul]
    omega

theorem toNat_ofNat_of_lt {w n : Nat} (h : n < capacity w) : toNat (ofNat w n) = n := by
  rw [toNat_ofNat, Nat.mod_eq_of_lt h]

/-- Writing a byte string's number in the string's own width gives the string back. -/
theorem ofNat_toNat (bs : Bytes) : ofNat bs.length (toNat bs) = bs := by
  generalize hw : bs.length = w
  induction w generalizing bs with
  | zero => rw [List.eq_nil_of_length_eq_zero hw]; rfl
  | succ w ih =>
    have hne : bs ≠ [] := by intro h; rw [h] at hw; exact absurd hw (by simp)
    have hb := List.dropLast_concat_getLast hne
    generalize bs.dropLast = ys at hb
    generalize bs.getLast hne = y at hb
    subst hb
    have hy : y.toNat < 256 := y.toNat_lt
    have hl : ys.length = w := by
      rw [List.length_append, List.length_cons, List.length_nil] at hw; omega
    have hd : (256 * toNat ys + y.toNat) / 256 = toNat ys := by omega
    have hm : UInt8.ofNat (256 * toNat ys + y.toNat) = y := by
      apply UInt8.toNat_inj.mp
      rw [UInt8.toNat_ofNat']
      omega
    rw [toNat_concat, ofNat_succ, hd, hm, ih ys hl]

theorem toNat_lt (bs : Bytes) : toNat bs < capacity bs.length := by
  have h := toNat_ofNat bs.length (toNat bs)
  rw [ofNat_toNat] at h
  rw [h]
  exact Nat.mod_lt _ (capacity_pos _)

/-- The number of binary digits of `n`; zero has none. -/
def bitLength (n : Nat) : Nat := if n = 0 then 0 else n.log2 + 1

/-- The shortest big-endian form of `n`; zero is the empty string. -/
def minimal (n : Nat) : Bytes := ofNat ((bitLength n + 7) / 8) n

/-! ## Blocks -/

/-- The first `n` blocks of `size` bytes. -/
def blocks (size : Nat) : Nat → Bytes → List Bytes
  | 0, _ => []
  | n + 1, bs => bs.take size :: blocks size n (bs.drop size)

theorem flatten_blocks (size n : Nat) (bs : Bytes) :
    (blocks size n bs).flatten = bs.take (n * size) := by
  induction n generalizing bs with
  | zero => rw [blocks, Nat.zero_mul, List.take_zero]; rfl
  | succ n ih =>
    rw [blocks, List.flatten_cons, ih, Nat.succ_mul, Nat.add_comm, List.take_add]

theorem blocks_add (size m n : Nat) (bs : Bytes) :
    blocks size (m + n) bs = blocks size m bs ++ blocks size n (bs.drop (m * size)) := by
  induction m generalizing bs with
  | zero => rw [Nat.zero_add, Nat.zero_mul, List.drop_zero]; rfl
  | succ m ih =>
    rw [Nat.succ_add, blocks, blocks, ih, List.cons_append, List.drop_drop, Nat.succ_mul,
      Nat.add_comm size]

theorem blocks_append (size n : Nat) (bs rest : Bytes) (h : n * size ≤ bs.length) :
    blocks size n (bs ++ rest) = blocks size n bs := by
  induction n generalizing bs with
  | zero => rfl
  | succ n ih =>
    rw [Nat.succ_mul] at h
    rw [blocks, blocks, List.take_append_of_le_length (by omega),
      List.drop_append_of_le_length (by omega), ih _ (by rw [List.length_drop]; omega)]

/-! ## Text and hexadecimal -/

/-- The UTF-8 encoding of a text. -/
def ofText (s : String) : Bytes := s.toUTF8.data.toList

/-- The lower-case hexadecimal digit of a number below 16. -/
def hexDigit (n : Nat) : Char :=
  if n < 10 then Char.ofNat (48 + n) else Char.ofNat (87 + n)

/-- Two lower-case hexadecimal digits a byte. -/
def toHex (bs : Bytes) : String :=
  String.ofList (bs.flatMap fun b => [hexDigit (b.toNat / 16), hexDigit (b.toNat % 16)])

/-- Byte-wise exclusive or. -/
def xor (a b : Bytes) : Bytes := List.zipWith (· ^^^ ·) a b

end Bytes

end Airgap
