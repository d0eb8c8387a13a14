import Airgap.Proofs.Entropy.Pool
import Airgap.Proofs.Outcome
import Mathlib.Data.Int.Bitwise

/-!
# A pool is a sequence of bits

* `Pool.Operation.onBits`: what an operation does to a plain list of bits.
* `Holds.perform`, `Holds.performAll`: it does the same to a pool, and does not fail.
* `Holds.bit`, `Holds.bits`: the bits are read where they stand in the list.
* `holds_operations`: a pool after any operations, and all that is read from it.
-/

namespace Airgap.Entropy

/-! ## Bits of integers and of bytes -/

/-- The low bits of an integer are those of its two's complement. -/
theorem bitsOf_eq (w : ℕ) (n : ℤ) : bitsOf w n = (List.range w).reverse.map n.testBit := by
  induction w generalizing n with
  | zero => rfl
  | succ w ih =>
    have hbit : ∀ i, n.testBit (i + 1) = (n / 2).testBit i := by
      intro i
      conv_lhs => rw [← Int.bit_decomp n, Int.div2_val]
      exact Int.testBit_bit_succ i n.bodd (n / 2)
    have hlow : n.testBit 0 = (n % 2 == 1) := by
      have hbodd := Int.bodd_add_div2 n
      rw [Int.div2_val] at hbodd
      have hzero : n.testBit 0 = n.bodd := by
        conv_lhs => rw [← Int.bit_decomp n]
        exact Int.testBit_bit_zero n.bodd n.div2
      rw [hzero, Bool.eq_iff_iff, beq_iff_eq]
      cases hb : n.bodd <;> rw [hb] at hbodd <;> simp only [cond_true, cond_false] at hbodd <;> simp <;>
        omega
    have hhigh : (List.range w).map (n.testBit ∘ Nat.succ) = (List.range w).map (n / 2).testBit :=
      List.map_congr_left fun i _ => hbit i
    rw [bitsOf_succ, ih, List.range_succ_eq_map, List.reverse_cons, List.map_append,
      ← List.map_reverse, List.map_map, List.map_reverse, List.map_reverse, hhigh, ← hlow]
    rfl

theorem getElem?_byteBits (bs : Bytes) (i : ℕ) :
    (byteBits bs)[i]? = bs[i / 8]?.map fun b => b.toNat.testBit (7 - i % 8) := by
  induction bs generalizing i with
  | nil => rfl
  | cons b bs ih =>
    have hcons : byteBits (b :: bs) = bitsDown 8 b.toNat ++ byteBits bs := by
      rw [← byteBits_singleton, ← byteBits_append]
      rfl
    rw [hcons]
    by_cases hi : i < 8
    · rw [List.getElem?_append_left (by rwa [length_bitsDown]),
        List.getElem?_eq_getElem (by rwa [length_bitsDown]), getElem_bitsDown,
        Nat.div_eq_of_lt hi, Nat.mod_eq_of_lt hi]
      rfl
    · obtain ⟨j, rfl⟩ := Nat.exists_eq_add_of_le' (Nat.not_lt.mp hi)
      rw [List.getElem?_append_right (by rw [length_bitsDown]; omega), length_bitsDown,
        Nat.add_sub_cancel, ih, Nat.add_div_right j (by decide), Nat.add_mod_right]
      rfl

namespace Pool

/-! ## Operations -/

/-- What an operation does to a plain list of bits. -/
def Operation.onBits (bits : List Bool) : Operation → List Bool
  | .appendBit bit => bits ++ [bit]
  | .appendBits value width => bits ++ (List.range width.toNat).reverse.map value.testBit
  | .truncate count => bits.take count.toNat
  | .clear => []

/-- Whether an operation cuts at a place in the pool, not at one counted from its end. -/
def Operation.Forward (operation : Operation) : Prop :=
  ∀ count, operation = .truncate count → 0 ≤ count

namespace Holds

variable {p : Pool} {bits : List Bool}

/-- **One operation** does to a pool what it does to the list, and does not fail. -/
theorem perform (h : p.Holds bits) {operation : Operation} (hforward : operation.Forward) :
    ∃ q, p.perform operation = (q, .ok ()) ∧ q.Holds (operation.onBits bits) := by
  cases operation with
  | appendBit bit => exact h.appendBit bit
  | appendBits value width =>
    obtain ⟨q, hq, hholds⟩ := h.appendAll (bitsOf width.toNat value)
    exact ⟨q, hq, by rwa [bitsOf_eq] at hholds⟩
  | truncate count =>
    obtain ⟨n, rfl⟩ := Int.eq_ofNat_of_zero_le (hforward count rfl)
    exact h.truncate n
  | clear => exact ⟨empty, rfl, holds_empty⟩

theorem performAll (h : p.Holds bits) {operations : List Operation}
    (hforward : ∀ operation ∈ operations, operation.Forward) :
    (p.performAll operations).Holds (operations.foldl Operation.onBits bits) := by
  induction operations generalizing p bits with
  | nil => exact h
  | cons operation operations ih =>
    obtain ⟨q, hq, hholds⟩ := h.perform (hforward operation List.mem_cons_self)
    have hrest := ih hholds fun later hlater => hforward later (List.mem_cons_of_mem _ hlater)
    have hstep : p.performAll (operation :: operations) = q.performAll operations := by
      rw [Pool.performAll, List.foldl_cons, hq]
      rfl
    rwa [hstep]

/-! ## Reading -/

theorem bit (h : p.Holds bits) {i : ℕ} (hi : i < bits.length) : p.bit i = .ok bits[i] := by
  have hread : (p.buffer.toList[i / 8]?.map fun b => b.toNat.testBit (7 - i % 8)) = some bits[i] := by
    rw [← getElem?_byteBits, h.byteBits_eq, List.getElem?_append_left hi,
      List.getElem?_eq_getElem hi]
  obtain ⟨b, hb, hbit⟩ := Option.map_eq_some_iff.mp hread
  have hinside : 0 ≤ (i : ℤ) ∧ (i : ℤ) < p.length := by
    rw [h.length_eq]
    omega
  have hplace : ((i : ℤ) / 8).toNat = i / 8 := by omega
  have hoffset : ((i : ℤ) % 8).toNat = i % 8 := by omega
  rw [Array.getElem?_toList] at hb
  rw [Pool.bit, if_pos hinside, hplace, hoffset, hb]
  exact congrArg Except.ok hbit

theorem bit_eq_error (h : p.Holds bits) {i : ℤ} (hi : i < 0 ∨ bits.length ≤ i) :
    p.bit i = .error .poolIndex := by
  rw [Pool.bit, if_neg]
  rw [h.length_eq]
  omega

theorem bits_eq (h : p.Holds bits) : p.bits = .ok bits := by
  have hlength : p.length.toNat = bits.length := by
    rw [h.length_eq, Int.toNat_natCast]
  have hread : (List.range bits.length).mapM (fun i : ℕ => p.bit i) =
      .ok ((List.range bits.length).map fun i => bits.getD i false) := by
    refine mapM_eq_ok fun i hi => ?_
    have hi := List.mem_range.mp hi
    rw [h.bit hi, List.getD_eq_getElem _ _ hi]
  have hlist : ((List.range bits.length).map fun i => bits.getD i false) = bits := by
    apply List.ext_getElem
    · simp
    · intro i hi hi'
      simp [hi']
  rw [Pool.bits, if_neg (by rw [h.length_eq]; omega), hlength, hread, hlist]

end Holds

/-- **A pool is a sequence of bits.** Whatever is appended, cut off or cleared, no operation fails, the
pool has the bits that the plain list has after the same operations, packed into as few bytes as they take
with zeros behind the last one, and reading gives the bits of the list and nothing behind its end. -/
theorem holds_operations {operations : List Operation}
    (hforward : ∀ operation ∈ operations, operation.Forward) :
    let p := empty.performAll operations
    let bits := operations.foldl Operation.onBits []
    (∀ before operation after, operations = before ++ operation :: after →
      ((empty.performAll before).perform operation).2 = .ok ()) ∧
    p.length = bits.length ∧ p.buffer.size = (bits.length + 7) / 8 ∧
    byteBits p.buffer.toList = bits ++ List.replicate (8 * p.buffer.size - bits.length) false ∧
    p.bits = .ok bits ∧
    (∀ i (hi : i < bits.length), p.bit i = .ok bits[i]) ∧
    (∀ i : ℤ, i < 0 ∨ bits.length ≤ i → ∃ e, p.bit i = .error e ∧ e.kind = .index) ∧
    (∀ n ≤ bits.length,
      (∃ bs, p.toBytes n (some .left) = .ok bs ∧ bs.length = (n + 7) / 8 ∧
        byteBits bs = bits.take n ++ List.replicate (8 * bs.length - n) false) ∧
      ∃ bs, p.toBytes n (some .right) = .ok bs ∧ bs.length = (n + 7) / 8 ∧
        bs.toNat = number (bits.take n)) ∧
    ∀ n : ℤ, bits.length < n → ∀ align, ∃ e, p.toBytes n align = .error e ∧ e.kind = .parameter := by
  intro p bits
  have hholds : p.Holds bits := holds_empty.performAll hforward
  have hspare : ∀ n, spare n = 8 * ((n + 7) / 8) - n := by
    intro n
    rw [← add_spare, Nat.add_sub_cancel_left]
  refine ⟨?_, hholds.length_eq, hholds.size_eq, ?_, hholds.bits_eq, fun i hi => hholds.bit hi,
    fun i hi => ⟨_, hholds.bit_eq_error hi, rfl⟩, fun n hn => ⟨?_, hholds.toBytes_right hn⟩, ?_⟩
  · rintro before operation after rfl
    have hbefore := holds_empty.performAll fun op hop => hforward op (List.mem_append_left _ hop)
    obtain ⟨q, hq, -⟩ := hbefore.perform (hforward operation (by simp))
    rw [hq]
  · rw [hholds.size_eq, ← hspare]
    exact hholds.byteBits_eq
  · obtain ⟨bs, hbs, hsize, hbits⟩ := hholds.toBytes_left hn
    exact ⟨bs, hbs, hsize, by rw [hsize, ← hspare]; exact hbits⟩
  · intro n hn align
    exact ⟨_, if_pos (by rw [hholds.length_eq]; exact hn), rfl⟩

/-- Bits are appended where a cut in the middle of a byte left off. -/
theorem holds_operations_recut :
    let operations : List Operation := [.appendBits (-3) 7, .truncate 3, .appendBit true, .truncate 9]
    let p := empty.performAll operations
    (∀ operation ∈ operations, operation.Forward) ∧ p.bits = .ok [true, true, true, true] ∧
      (∃ bs, p.toBytes (3 : ℕ) (some .right) = .ok bs ∧ bs.toNat = 7) ∧
      ∃ e, p.bit (4 : ℕ) = .error e ∧ e.kind = .index := by
  intro operations p
  have hforward : ∀ operation ∈ operations, operation.Forward := by
    simp [operations, Operation.Forward]
  obtain ⟨-, -, -, -, hbits, -, houtside, hbytes, -⟩ := holds_operations hforward
  obtain ⟨bs, hbs, -, hnumber⟩ := (hbytes 3 (by decide)).2
  exact ⟨hforward, hbits, ⟨bs, hbs, hnumber⟩, houtside 4 (.inr (by decide))⟩

end Pool

end Airgap.Entropy
