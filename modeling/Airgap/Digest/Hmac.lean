import Airgap.Digest.Algorithm

/-!
# HMAC (RFC 2104)

* `blockKey`: the key, hashed when it is longer than a block, with zeros up to a block.
* `Hmac`: the inner and the outer hash, both fed their padded key, with the message going to the
  inner one.
* `hmac`: the code of a complete message.
-/

namespace Airgap.Digest

/-- A key as one block: a key longer than a block is replaced by its digest, and zeros follow. -/
def blockKey (a : Algorithm) (key : Bytes) : Bytes :=
  let short := if key.length > a.blockSize then (hash a key).value else key
  short ++ List.replicate (a.blockSize - short.length) 0

theorem length_blockKey (a : Algorithm) (key : Bytes) : (blockKey a key).length = a.blockSize := by
  have h := a.digestSize_le_blockSize
  simp only [blockKey, List.length_append, List.length_replicate]
  split
  · rw [(hash a key).length_value, show (hash a key).algorithm = a from rfl]
    omega
  · omega

/-- The block key with every byte combined with the byte of a pad. -/
def padKey (a : Algorithm) (key : Bytes) (pad : UInt8) : Bytes := (blockKey a key).map (· ^^^ pad)

/-- A message being authenticated. -/
structure Hmac (a : Algorithm) where
  inner : Hasher a.construction
  outer : Hasher a.construction

namespace Hmac

variable {a : Algorithm}

/-- Keyed, with nothing fed yet. -/
def ofKey (a : Algorithm) (key : Bytes) : Hmac a :=
  ⟨(Hasher.empty a.construction).update (padKey a key 0x36),
    (Hasher.empty a.construction).update (padKey a key 0x5C)⟩

/-- Feeds more message bytes. -/
def update (m : Hmac a) (data : Bytes) : Hmac a := { m with inner := m.inner.update data }

/-- The code of everything fed so far. -/
def digest (m : Hmac a) : Bytes := (m.outer.update m.inner.digest).digest

@[simp] theorem length_digest (m : Hmac a) : m.digest.length = a.digestSize :=
  Hasher.length_digest _

end Hmac

/-- The code of a complete message. -/
def hmac (a : Algorithm) (key message : Bytes) : Digest :=
  ⟨a, ((Hmac.ofKey a key).update message).digest, Hmac.length_digest _⟩

end Airgap.Digest
