import Airgap.Digest.Construction

/-!
# Feeding a message piecewise

* `Construction.absorb_append`, `Construction.absorb_take_whole`: whole blocks are compressed in order,
  and an incomplete one is left out.
* `Hasher.Fed`: the hasher holds what is left of a message: the state after its whole blocks, the rest
  behind them, and its length.
* `Hasher.Fed.update`, `Hasher.Fed.digest_eq`: feeding appends to the message, and the digest is the
  one of the message in one piece.
-/

namespace Airgap.Digest

variable {c : Construction}

namespace Construction

theorem blockSize_pos (c : Construction) : 0 < c.blockSize :=
  Nat.lt_of_le_of_lt (Nat.zero_le _) c.lengthSize_lt

/-- The bytes of a message that its whole blocks take. -/
def whole (c : Construction) (data : Bytes) : Nat := data.length / c.blockSize * c.blockSize

theorem whole_le (data : Bytes) : c.whole data ≤ data.length := Nat.div_mul_le_self _ _

theorem whole_append {xs : Bytes} {n : Nat} (h : xs.length = n * c.blockSize) (ys : Bytes) :
    c.whole (xs ++ ys) = xs.length + c.whole ys := by
  rw [whole, whole, List.length_append, h, Nat.add_comm (n * c.blockSize),
    Nat.add_mul_div_right _ _ c.blockSize_pos, Nat.add_mul, Nat.add_comm]

/-- Whole blocks are compressed before all that follows them. -/
theorem absorb_append {xs : Bytes} {n : Nat} (h : xs.length = n * c.blockSize) (ys : Bytes)
    (s : c.State) : c.absorb s (xs ++ ys) = c.absorb (c.absorb s xs) ys := by
  have hn : xs.length / c.blockSize = n := by rw [h, Nat.mul_div_cancel _ c.blockSize_pos]
  have hsum : (xs ++ ys).length / c.blockSize = n + ys.length / c.blockSize := by
    rw [List.length_append, h, Nat.add_comm, Nat.add_mul_div_right _ _ c.blockSize_pos, Nat.add_comm]
  rw [absorb, absorb, absorb, hsum, hn, Bytes.blocks_add, List.foldl_append,
    Bytes.blocks_append _ _ _ _ (Nat.le_of_eq h.symm), ← h, List.drop_left]

theorem absorb_of_lt {data : Bytes} (h : data.length < c.blockSize) (s : c.State) :
    c.absorb s data = s := by
  rw [absorb, Nat.div_eq_of_lt h]
  rfl

theorem length_drop_whole (data : Bytes) :
    (data.drop (c.whole data)).length = data.length % c.blockSize := by
  have h := Nat.div_add_mod' data.length c.blockSize
  rw [List.length_drop, whole]
  omega

theorem length_take_whole (data : Bytes) :
    (data.take (c.whole data)).length = data.length / c.blockSize * c.blockSize := by
  rw [List.length_take, Nat.min_eq_left (whole_le data), whole]

theorem absorb_take_whole (data : Bytes) (s : c.State) :
    c.absorb s (data.take (c.whole data)) = c.absorb s data := by
  have hrest : (data.drop (c.whole data)).length < c.blockSize := by
    rw [length_drop_whole]
    exact Nat.mod_lt _ c.blockSize_pos
  have h := absorb_append (length_take_whole data) (data.drop (c.whole data)) s
  rw [List.take_append_drop, absorb_of_lt hrest] at h
  exact h.symm

/-- Only the bytes of an incomplete block count for the zeros. -/
theorem closing_eq_padding {waiting n : Nat} (h : waiting = n % c.blockSize) :
    c.closing waiting n = c.padding n := by
  have hmod : (waiting + 1 + c.lengthSize) % c.blockSize = (n + 1 + c.lengthSize) % c.blockSize := by
    rw [h, Nat.add_assoc, Nat.add_assoc, Nat.mod_add_mod]
  rw [padding, closing, closing, hmod]

end Construction

/-! ## One hasher -/

namespace Hasher

/-- The hasher holds what is left of the message after its whole blocks. -/
structure Fed (h : Hasher c) (message : Bytes) : Prop where
  state_eq : h.state = c.absorb c.initial message
  pending_eq : h.pending = message.drop (c.whole message)
  length_eq : h.length = message.length

theorem fed_empty : (empty c).Fed [] := by
  have hlt : ([] : Bytes).length < c.blockSize := c.blockSize_pos
  exact ⟨(Construction.absorb_of_lt hlt _).symm, List.drop_nil.symm, rfl⟩

/-- **Feeding appends to the message**, however its pieces lie to the blocks. -/
theorem Fed.update {h : Hasher c} {message : Bytes} (hf : h.Fed message) (data : Bytes) :
    (h.update data).Fed (message ++ data) := by
  have hfront := c.length_take_whole message
  have hsplit : message ++ data =
      message.take (c.whole message) ++ (h.pending ++ data) := by
    rw [hf.pending_eq, ← List.append_assoc, List.take_append_drop]
  refine ⟨?_, ?_, ?_⟩
  · rw [hsplit, Construction.absorb_append hfront, Construction.absorb_take_whole, ← hf.state_eq]
    rfl
  · rw [hsplit, Construction.whole_append hfront, List.drop_length_add_append]
    rfl
  · rw [List.length_append, ← hf.length_eq]
    rfl

/-- The blocks that are left when the message is complete lead to the state after all of its padded
blocks. -/
theorem Fed.absorb_closed {h : Hasher c} {message : Bytes} (hf : h.Fed message) :
    c.absorb h.state h.closed = c.absorb c.initial (c.pad message) := by
  have hwaiting : h.pending.length = h.length % c.blockSize := by
    rw [hf.pending_eq, Construction.length_drop_whole, hf.length_eq]
  have hpad : c.pad message = message.take (c.whole message) ++ h.closed := by
    rw [Construction.pad, closed, Construction.closing_eq_padding hwaiting, hf.length_eq,
      hf.pending_eq, ← List.append_assoc, List.take_append_drop]
  rw [hpad, Construction.absorb_append (c.length_take_whole message),
    Construction.absorb_take_whole, hf.state_eq]

/-- **The digest of the pieces is the digest of the message.** -/
theorem Fed.digest_eq {h : Hasher c} {message : Bytes} (hf : h.Fed message) :
    h.digest = c.hash message := by
  rw [digest, Construction.hash, hf.absorb_closed]

end Hasher

end Airgap.Digest
