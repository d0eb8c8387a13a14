import Airgap.Entropy.Pool
import Airgap.Proofs.Entropy.Bits

/-!
# What a pool holds

* `Pool.Holds`: the buffer of a pool has just the bytes that its bits take, with zeros behind the last
  bit.
* `Holds.appendAll`, `Holds.truncate`: bits are appended and cut off, and neither fails.
* `Holds.toBytes_left`, `Holds.toBytes_right`: the first bits as bytes.
-/

namespace Airgap.Entropy

/-- The bits that are missing to whole bytes. -/
def spare (n : ℕ) : ℕ := (8 - n % 8) % 8

theorem add_spare (n : ℕ) : n + spare n = 8 * ((n + 7) / 8) := by
  rw [spare]
  omega

namespace Pool

/-- The pool holds bits: its buffer has the bytes that they take, filled up with zeros. -/
structure Holds (p : Pool) (bits : List Bool) : Prop where
  length_eq : p.length = bits.length
  byteBits_eq : byteBits p.buffer.toList = bits ++ List.replicate (spare bits.length) false

theorem holds_empty : empty.Holds [] := ⟨rfl, rfl⟩

/-! ## One byte -/

theorem bitsDown_or {r : ℕ} (hr : r < 8) (x : UInt8) :
    bitsDown 8 (x ||| 0x80 >>> UInt8.ofNat r).toNat = (bitsDown 8 x.toNat).set r true := by
  have hmark : ∀ r < 8, ((0x80 : UInt8) >>> UInt8.ofNat r).toNat = 2 ^ (7 - r) := by decide
  apply List.ext_getElem
  · rw [List.length_set, length_bitsDown, length_bitsDown]
  · intro i hi hi'
    rw [length_bitsDown] at hi
    rw [List.getElem_set, getElem_bitsDown, getElem_bitsDown, UInt8.toNat_or, hmark r hr,
      Nat.testBit_or, Nat.testBit_two_pow]
    split
    · rw [decide_eq_true (by omega), Bool.or_true]
    · rw [decide_eq_false (by omega), Bool.or_false]

theorem bitsDown_and {r : ℕ} (hpos : 0 < r) (hr : r < 8) (x : UInt8) :
    bitsDown 8 (x &&& 0xFF <<< UInt8.ofNat (8 - r)).toNat =
      (bitsDown 8 x.toNat).take r ++ List.replicate (8 - r) false := by
  have hmask : ∀ r < 8, 0 < r → ∀ i < 8,
      ((0xFF : UInt8) <<< UInt8.ofNat (8 - r)).toNat.testBit i = decide (8 - r ≤ i) := by decide
  apply List.ext_getElem
  · rw [List.length_append, List.length_take, List.length_replicate, length_bitsDown,
      length_bitsDown]
    omega
  · intro i hi hi'
    rw [length_bitsDown] at hi
    rw [getElem_bitsDown, UInt8.toNat_and, Nat.testBit_and, hmask r hr hpos _ (by omega)]
    by_cases hir : i < r
    · rw [List.getElem_append_left (by rw [List.length_take, length_bitsDown]; omega),
        List.getElem_take, getElem_bitsDown, decide_eq_true (by omega), Bool.and_true]
    · rw [List.getElem_append_right (by rw [List.length_take, length_bitsDown]; omega),
        List.getElem_replicate, decide_eq_false (by omega), Bool.and_false]

/-- The last byte is masked: the bits in front stay, and zeros fill up. -/
theorem byteBits_mask {front : Bytes} {n : ℕ} (hfront : 8 * front.length + n % 8 = n) (hr : n % 8 ≠ 0)
    (last : UInt8) : byteBits (front ++ [last &&& 0xFF <<< UInt8.ofNat (8 - n % 8)]) =
      (byteBits (front ++ [last])).take n ++ List.replicate (spare n) false := by
  have hspare : spare n = 8 - n % 8 := by rw [spare, Nat.mod_eq_of_lt (by omega)]
  have hfull : n = (byteBits front).length + n % 8 := by
    rw [length_byteBits]
    exact hfront.symm
  have htake : (byteBits front ++ bitsDown 8 last.toNat).take n =
      byteBits front ++ (bitsDown 8 last.toNat).take (n % 8) := by
    conv_lhs => rw [hfull]
    exact List.take_length_add_append _
  rw [byteBits_append, byteBits_append, byteBits_singleton, byteBits_singleton, htake, hspare,
    bitsDown_and (Nat.pos_of_ne_zero hr) (Nat.mod_lt _ (by decide)), List.append_assoc]

/-! ## Operations -/

theorem cut_natCast (size : ℕ) (bs : Array UInt8) : cut size bs = bs.take size := by
  rw [cut, if_pos (Int.natCast_nonneg _), Int.toNat_natCast]

theorem toList_take (bs : Array UInt8) (n : ℕ) : (bs.take n).toList = bs.toList.take n := by simp

namespace Holds

variable {p : Pool} {bits : List Bool}

theorem size_eq (h : p.Holds bits) : p.buffer.size = (bits.length + 7) / 8 := by
  have hlen := congrArg List.length h.byteBits_eq
  rw [length_byteBits, List.length_append, List.length_replicate, add_spare, Array.length_toList]
    at hlen
  omega

/-- The byte that the next bit goes into is the last one, and its free bits are zero. -/
theorem opened (h : p.Holds bits) : ∃ front last,
    (if p.length % 8 = 0 then p.buffer.push 0 else p.buffer) = Array.push front last ∧
    8 * front.size + bits.length % 8 = bits.length ∧
    byteBits front.toList ++ bitsDown 8 last.toNat =
      bits ++ List.replicate (8 - bits.length % 8) false := by
  have hsize := h.size_eq
  have hbits := h.byteBits_eq
  by_cases hr : bits.length % 8 = 0
  · refine ⟨p.buffer, 0, if_pos (by rw [h.length_eq]; omega), by omega, ?_⟩
    rw [hbits, spare, hr, List.append_assoc]
    rfl
  · obtain ⟨front, last, hbuffer⟩ := @Array.eq_push_of_size_ne_zero _ p.buffer (by omega)
    rw [hbuffer, Array.size_push] at hsize
    rw [hbuffer, Array.toList_push, byteBits_append, byteBits_singleton, spare,
      Nat.mod_eq_of_lt (by omega)] at hbits
    exact ⟨front, last, by rw [if_neg (by rw [h.length_eq]; omega), hbuffer], by omega, hbits⟩

theorem appendBit (h : p.Holds bits) (b : Bool) :
    ∃ q, p.appendBit b = (q, .ok ()) ∧ q.Holds (bits ++ [b]) := by
  obtain ⟨front, last, hopened, hfront, hbits⟩ := h.opened
  have hr : bits.length % 8 < 8 := Nat.mod_lt _ (by decide)
  have hmod : (p.length % 8).toNat = bits.length % 8 := by rw [h.length_eq]; omega
  have hspare : spare (bits ++ [b]).length = 7 - bits.length % 8 := by
    rw [spare, List.length_append, List.length_singleton]
    omega
  have hfree : List.replicate (8 - bits.length % 8) false =
      false :: List.replicate (7 - bits.length % 8) false := by
    rw [← List.replicate_succ]
    congr 1
    omega
  have hlength : p.length + 1 = ((bits ++ [b]).length : ℤ) := by
    rw [h.length_eq, List.length_append]
    rfl
  rw [hfree] at hbits
  cases b with
  | false =>
    refine ⟨⟨front.push last, p.length + 1⟩, ?_, hlength, ?_⟩
    · simp only [Pool.appendBit, hopened, Bool.not_false, if_true]
    · rw [Array.toList_push, byteBits_append, byteBits_singleton, hbits, hspare, List.append_assoc]
      rfl
  | true =>
    have hne : (front.push last).isEmpty = false := by simp
    refine ⟨⟨front.push (last ||| 0x80 >>> UInt8.ofNat (bits.length % 8)), p.length + 1⟩, ?_,
      hlength, ?_⟩
    · simp only [Pool.appendBit, hopened, hmod, hne, modifyLast_push, Bool.not_true,
        Bool.false_eq_true, if_false]
    · have hfull : bits.length = (byteBits front.toList).length + bits.length % 8 := by
        rw [length_byteBits]
        exact hfront.symm
      calc byteBits (front.push (last ||| 0x80 >>> UInt8.ofNat (bits.length % 8))).toList
          = byteBits front.toList ++ (bitsDown 8 last.toNat).set (bits.length % 8) true := by
            rw [Array.toList_push, byteBits_append, byteBits_singleton, bitsDown_or hr]
        _ = (byteBits front.toList ++ bitsDown 8 last.toNat).set bits.length true := by
            rw [List.set_append_right _ _ (by omega), Nat.sub_eq_of_eq_add' hfull]
        _ = bits ++ true :: List.replicate (7 - bits.length % 8) false := by
            rw [hbits, List.set_append_right _ _ (Nat.le_refl _), Nat.sub_self]
            rfl
        _ = bits ++ [true] ++ List.replicate (spare (bits ++ [true]).length) false := by
            rw [hspare, List.append_assoc]
            rfl

theorem appendAll (h : p.Holds bits) (more : List Bool) :
    ∃ q, p.appendAll more = (q, .ok ()) ∧ q.Holds (bits ++ more) := by
  induction more generalizing p bits with
  | nil => exact ⟨p, rfl, by rwa [List.append_nil]⟩
  | cons b more ih =>
    obtain ⟨q, hq, hholds⟩ := h.appendBit b
    obtain ⟨q', hq', hholds'⟩ := ih hholds
    refine ⟨q', ?_, ?_⟩
    · rw [Pool.appendAll, hq]
      exact hq'
    · rwa [List.append_assoc] at hholds'

/-- The bytes that the first bits take. -/
theorem byteBits_take (h : p.Holds bits) {n : ℕ} (hn : n ≤ bits.length) :
    (byteBits (p.buffer.toList.take ((n + 7) / 8))).length = n + spare n ∧
    (byteBits (p.buffer.toList.take ((n + 7) / 8))).take n = bits.take n := by
  have hsize : p.buffer.toList.length = (bits.length + 7) / 8 := h.size_eq
  constructor
  · rw [length_byteBits, List.length_take, hsize, add_spare]
    omega
  · rw [Entropy.byteBits_take, h.byteBits_eq, List.take_take, Nat.min_eq_left (by omega),
      List.take_append_of_le_length hn]

theorem truncate_eq (h : p.Holds bits) {n : ℕ} (hn : n < bits.length) :
    p.truncate n =
      (⟨if n % 8 = 0 then p.buffer.take ((n + 7) / 8)
        else modifyLast (· &&& 0xFF <<< UInt8.ofNat (8 - n % 8)) (p.buffer.take ((n + 7) / 8)), n⟩,
        .ok ()) := by
  have hsize := h.size_eq
  have hcount : ((n : ℤ) + 7) / 8 = ((n + 7) / 8 : ℕ) := by omega
  have hshort : ¬ p.length ≤ n := by rw [h.length_eq]; omega
  have hword : ¬ (((n + 7) / 8 : ℕ) : ℤ) < -(wordLimit : ℤ) := by omega
  have hindex : ¬ (((n + 7) / 8 : ℕ) : ℤ) < -(p.buffer.size : ℤ) := by omega
  have hneg : ¬ (((n + 7) / 8 : ℕ) : ℤ) < 0 := by omega
  have hzero : ((n : ℤ) % 8 = 0) ↔ n % 8 = 0 := by omega
  have hmod : ((n : ℤ) % 8).toNat = n % 8 := by omega
  simp only [Pool.truncate, hcount, hshort, hword, hindex, hneg, hzero, hmod, cut_natCast, if_false]
  by_cases hr : n % 8 = 0
  · rw [if_pos hr, if_pos hr]
  · have hne : (p.buffer.take ((n + 7) / 8)).isEmpty = false := by
      rw [Array.isEmpty_eq_false_iff, ne_eq, ← Array.size_eq_zero_iff, Array.take_eq_extract,
        Array.size_extract]
      omega
    simp only [hr, hne, if_false, Bool.false_eq_true]

theorem truncate (h : p.Holds bits) (n : ℕ) :
    ∃ q, p.truncate n = (q, .ok ()) ∧ q.Holds (bits.take n) := by
  rcases Nat.lt_or_ge n bits.length with hn | hn
  · obtain ⟨hlen, htake⟩ := h.byteBits_take (Nat.le_of_lt hn)
    have hlength : (bits.take n).length = n := by rw [List.length_take]; omega
    refine ⟨_, h.truncate_eq hn, by rw [hlength], ?_⟩
    rw [hlength]
    rw [← toList_take] at hlen htake
    by_cases hr : n % 8 = 0
    · have hspare : spare n = 0 := by rw [spare, hr]
      rw [if_pos hr, hspare, List.replicate_zero, List.append_nil, ← htake,
        List.take_of_length_le (by omega)]
    · have hsize : (p.buffer.take ((n + 7) / 8)).size ≠ 0 := by
        rw [length_byteBits, Array.length_toList] at hlen
        omega
      obtain ⟨front, last, hkept⟩ := Array.eq_push_of_size_ne_zero hsize
      rw [hkept, Array.toList_push] at hlen htake
      have hfront : 8 * front.toList.length + n % 8 = n := by
        rw [length_byteBits, List.length_append, List.length_singleton] at hlen
        have hfill := add_spare n
        omega
      rw [if_neg hr, hkept, modifyLast_push, Array.toList_push, byteBits_mask hfront hr, htake]
  · refine ⟨p, if_pos (by rw [h.length_eq]; omega), ?_⟩
    rwa [List.take_of_length_le hn]

/-- The first bits as bytes, for both alignments. -/
theorem toBytes_eq (h : p.Holds bits) {n : ℕ} (hn : n ≤ bits.length) (align : Alignment) :
    p.toBytes n (some align) = .ok (Bytes.ofNat ((n + 7) / 8) (match align with
      | .left => number (bits.take n ++ List.replicate (spare n) false)
      | .right => number (bits.take n))) := by
  have hcount : ((n : ℤ) + 7) / 8 = ((n + 7) / 8 : ℕ) := by omega
  have hfill := add_spare n
  have hspare : ((((n + 7) / 8 : ℕ) : ℤ) * 8 - n).toNat = spare n := by omega
  have henough : ¬ p.length < n := by rw [h.length_eq]; omega
  have hword : ¬ (((n + 7) / 8 : ℕ) : ℤ) < -(wordLimit : ℤ) := by omega
  have hneg : ¬ (((n + 7) / 8 : ℕ) : ℤ) < 0 := by omega
  have hvalue : (if (n : ℤ) = 0 then 0
      else Bytes.toNat (p.buffer.take ((n + 7) / 8)).toList >>> spare n) = number (bits.take n) := by
    obtain ⟨hlen, htake⟩ := h.byteBits_take hn
    split
    · rename_i hzero
      rw [Int.natCast_eq_zero.mp hzero, List.take_zero]
      rfl
    · have hrest : ((byteBits (p.buffer.toList.take ((n + 7) / 8))).drop n).length = spare n := by
        rw [List.length_drop]
        omega
      rw [toList_take, ← number_byteBits, ← htake]
      conv_lhs => rw [← List.take_append_drop n (byteBits _), ← hrest]
      exact number_append_shiftRight _ _
  simp only [toBytes, hcount, hspare, henough, hword, hneg, cut_natCast, hvalue, if_false,
    Int.toNat_natCast]
  cases align with
  | left => rw [number_shiftLeft]
  | right => rfl

theorem toBytes_left (h : p.Holds bits) {n : ℕ} (hn : n ≤ bits.length) :
    ∃ bs, p.toBytes n (some .left) = .ok bs ∧ bs.length = (n + 7) / 8 ∧
      byteBits bs = bits.take n ++ List.replicate (spare n) false := by
  refine ⟨_, h.toBytes_eq hn .left, Bytes.length_ofNat _ _, byteBits_ofNat_number ?_⟩
  rw [List.length_append, List.length_take, List.length_replicate, Nat.min_eq_left hn, add_spare]

theorem toBytes_right (h : p.Holds bits) {n : ℕ} (hn : n ≤ bits.length) :
    ∃ bs, p.toBytes n (some .right) = .ok bs ∧ bs.length = (n + 7) / 8 ∧
      bs.toNat = number (bits.take n) := by
  refine ⟨_, h.toBytes_eq hn .right, Bytes.length_ofNat _ _, Bytes.toNat_ofNat_of_lt ?_⟩
  have hlt := number_lt (bits.take n)
  rw [List.length_take, Nat.min_eq_left hn] at hlt
  rw [capacity_eq_two_pow, ← add_spare]
  exact Nat.lt_of_lt_of_le hlt (Nat.pow_le_pow_right (by decide) (Nat.le_add_right _ _))

end Holds

end Pool

end Airgap.Entropy
