import Airgap.Digest.Hmac
import Airgap.Proofs.Digest.Construction

/-!
# The code of a message by its formula

* `Rfc2104.code`: the code of a key and a message, in one formula on byte strings.
* `Hmac.Fed`: a code under way holds a key and the message so far. `Hmac.fed_ofKey`, `Hmac.Fed.update`
  and `Hmac.Fed.digest_eq` are its beginning, its steps and what it is read as.
* `value_hmac`: so the code of a complete message is the one of the formula.
-/

namespace Airgap.Digest

variable {a : Algorithm}

/-! ## The formula -/

namespace Rfc2104

/-- The key, or its digest if it is longer than a block, with zeros up to a block. -/
def block (a : Algorithm) (key : Bytes) : Bytes :=
  List.rightpad a.blockSize 0 (if key.length ≤ a.blockSize then key else (hash a key).value)

/-- A byte as often as a block has bytes. -/
def pad (a : Algorithm) (b : UInt8) : Bytes := List.replicate a.blockSize b

/-- The code of a message, `H((K ⊕ opad) ‖ H((K ⊕ ipad) ‖ message))`. -/
def code (a : Algorithm) (key message : Bytes) : Bytes :=
  let inner := hash a (Bytes.xor (block a key) (pad a 0x36) ++ message)
  (hash a (Bytes.xor (block a key) (pad a 0x5C) ++ inner.value)).value

theorem length_code (key message : Bytes) : (code a key message).length = a.digestSize :=
  (hash a _).length_value

end Rfc2104

theorem blockKey_eq (a : Algorithm) (key : Bytes) : blockKey a key = Rfc2104.block a key := by
  rw [blockKey, Rfc2104.block, List.rightpad]
  by_cases h : key.length ≤ a.blockSize
  · rw [if_pos h, if_neg (Nat.not_lt.mpr h)]
  · rw [if_neg h, if_pos (Nat.lt_of_not_le h)]

theorem xor_replicate (bs : Bytes) (b : UInt8) :
    Bytes.xor bs (List.replicate bs.length b) = bs.map (· ^^^ b) := by
  induction bs with
  | nil => rfl
  | cons x bs ih =>
    rw [List.length_cons, List.replicate_succ, List.map_cons, ← ih]
    rfl

theorem padKey_eq (a : Algorithm) (key : Bytes) (b : UInt8) :
    padKey a key b = Bytes.xor (Rfc2104.block a key) (Rfc2104.pad a b) := by
  rw [padKey, ← xor_replicate, length_blockKey, blockKey_eq, Rfc2104.pad]

/-- The two nested digests are those of the formula. -/
theorem hash_padKey (a : Algorithm) (key message : Bytes) :
    a.construction.hash (padKey a key 0x5C ++ a.construction.hash (padKey a key 0x36 ++ message)) =
      Rfc2104.code a key message := by
  rw [padKey_eq, padKey_eq]
  rfl

/-! ## One code -/

namespace Hmac

/-- The hashers of a code hold the padded key, and the inner one the message after it. -/
structure Fed (m : Hmac a) (key message : Bytes) : Prop where
  inner : m.inner.Fed (padKey a key 0x36 ++ message)
  outer : m.outer.Fed (padKey a key 0x5C)

theorem fed_ofKey (a : Algorithm) (key : Bytes) : (ofKey a key).Fed key [] := by
  refine ⟨?_, Hasher.fed_empty.update _⟩
  rw [List.append_nil]
  exact Hasher.fed_empty.update _

variable {m : Hmac a} {key message : Bytes}

theorem Fed.update (h : m.Fed key message) (data : Bytes) :
    (m.update data).Fed key (message ++ data) := by
  refine ⟨?_, h.outer⟩
  rw [← List.append_assoc]
  exact h.inner.update data

/-- **What a code is read as** is the code of its key and everything fed to it. -/
theorem Fed.digest_eq (h : m.Fed key message) : m.digest = Rfc2104.code a key message := by
  have houter := h.outer.update m.inner.digest
  rw [digest, houter.digest_eq, h.inner.digest_eq, hash_padKey]

end Hmac

theorem digest_ofKey (a : Algorithm) (key data : Bytes) :
    ((Hmac.ofKey a key).update data).digest = Rfc2104.code a key data :=
  ((Hmac.fed_ofKey a key).update data).digest_eq

theorem value_hmac (a : Algorithm) (key message : Bytes) :
    (hmac a key message).value = Rfc2104.code a key message := digest_ofKey a key message

end Airgap.Digest
