import Airgap.Bytes

/-!
# Block hash functions by the Merkle–Damgård construction

A `Construction` compresses a padded message block by block from an initial state.

* `Construction.closing waiting n`: what follows the `waiting` bytes that are left of a message of `n`
  bytes, a `0x80` byte, zeros and the bit length, so that whole blocks result.
* `Construction.padding n`: what follows a message of `n` bytes.
* `Construction.hash`: the digest of a complete message.
* `Hasher`: the same digest of a message fed piecewise.
-/

namespace Airgap.Digest

/-- The order in which a construction writes the bytes of its length field. -/
inductive ByteOrder where
  | big
  | little
  deriving DecidableEq, Repr

/-- The `w` low bytes of a number in the given order. -/
def ByteOrder.write : ByteOrder → Nat → Nat → Bytes
  | .big => Bytes.ofNat
  | .little => Bytes.ofNatLE

@[simp] theorem ByteOrder.length_write (o : ByteOrder) (w n : Nat) : (o.write w n).length = w := by
  cases o
  · exact Bytes.length_ofNat w n
  · exact Bytes.length_ofNatLE w n

/-- A hash function that folds a compression function over the blocks of the padded message. -/
structure Construction where
  State : Type
  initial : State
  compress : State → Bytes → State
  output : State → Bytes
  /-- Bytes in a block. -/
  blockSize : Nat
  /-- Bytes in the trailing field that holds the message's bit length. -/
  lengthSize : Nat
  order : ByteOrder
  /-- Bytes in a digest. -/
  digestSize : Nat
  lengthSize_lt : lengthSize < blockSize
  length_output : ∀ s, (output s).length = digestSize

namespace Construction

variable (c : Construction)

/-- Compresses the whole blocks at the front of `data`, leaving out an incomplete last one. -/
def absorb (s : c.State) (data : Bytes) : c.State :=
  (Bytes.blocks c.blockSize (data.length / c.blockSize) data).foldl c.compress s

/-- What follows a message of `n` bytes of which the last `waiting` are not compressed yet: the
delimiter, zeros up to the length field of a block, and the bit length. -/
def closing (waiting n : Nat) : Bytes :=
  0x80 :: List.replicate ((c.blockSize - (waiting + 1 + c.lengthSize) % c.blockSize) % c.blockSize) 0
    ++ c.order.write c.lengthSize (8 * n)

/-- What follows a message of `n` bytes. -/
def padding (n : Nat) : Bytes := c.closing n n

/-- The padded message. -/
def pad (message : Bytes) : Bytes := message ++ c.padding message.length

/-- The digest of a complete message. -/
def hash (message : Bytes) : Bytes := c.output (c.absorb c.initial (c.pad message))

@[simp] theorem length_hash (message : Bytes) : (c.hash message).length = c.digestSize :=
  c.length_output _

theorem length_padding (n : Nat) :
    (c.padding n).length =
      1 + (c.blockSize - (n + 1 + c.lengthSize) % c.blockSize) % c.blockSize + c.lengthSize := by
  simp only [padding, closing, List.cons_append, List.length_cons, List.length_append,
    List.length_replicate, ByteOrder.length_write]
  omega

end Construction

/-! ## Feeding a message piecewise -/

/-- A message fed so far: the state after its whole blocks, the bytes still waiting for a block, and
its length. -/
structure Hasher (c : Construction) where
  state : c.State
  pending : Bytes
  length : Nat

namespace Hasher

variable {c : Construction}

/-- Nothing fed yet. -/
def empty (c : Construction) : Hasher c := ⟨c.initial, [], 0⟩

/-- Feeds more message bytes. -/
def update (h : Hasher c) (data : Bytes) : Hasher c :=
  let all := h.pending ++ data
  ⟨c.absorb h.state all, all.drop (all.length / c.blockSize * c.blockSize), h.length + data.length⟩

/-- The waiting bytes with all that follows them once the message is complete. -/
def closed (h : Hasher c) : Bytes := h.pending ++ c.closing h.pending.length h.length

/-- The digest of everything fed so far. -/
def digest (h : Hasher c) : Bytes := c.output (c.absorb h.state h.closed)

@[simp] theorem length_digest (h : Hasher c) : h.digest.length = c.digestSize :=
  c.length_output _

end Hasher

end Airgap.Digest
