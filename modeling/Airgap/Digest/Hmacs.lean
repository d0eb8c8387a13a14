import Airgap.Buffer
import Airgap.Digest.Hashers
import Airgap.Digest.Hmac

/-!
# Authentication codes that share a memory

Several codes of one algorithm are begun, fed, copied and read in any order. A code has two hashers,
which live with those of all other codes and are known by number; to read it, the outer one is copied
and fed the digest of the inner one.

* `Material`: a key or a piece of a message, as a text or as bytes.
* `holdKey`, `nest`: the hashers of a key, which is kept in a buffer meanwhile and wiped.
* `Nested.read`: the code of everything fed so far.
* `Hmacs.perform`: what a request answers and leaves behind; `Hmacs.answers`: what many answer.
-/

namespace Airgap.Digest

/-! ## Keys and messages -/

/-- A key or a piece of a message. -/
inductive Material where
  | text (s : String)
  | bytes (bs : Bytes)
  deriving DecidableEq, Repr

namespace Material

/-- The bytes; of a text, those of its UTF-8 encoding. -/
def toBytes : Material → Bytes
  | text s => Bytes.ofText s
  | bytes bs => bs

/-- Whether there is nothing to feed. -/
def isEmpty : Material → Bool
  | text s => s.isEmpty
  | bytes bs => bs.isEmpty

end Material

/-! ## Hashers and buffers -/

variable {c : Construction}

/-- The number that is answered. -/
def Answer.place : Answer → Nat
  | number i => i
  | _ => 0

/-- The digest that is answered. -/
def Answer.value : Answer → Bytes
  | digest bs => bs
  | _ => []

namespace Hashers

/-- The address of a new buffer with the given content. -/
def hold (b : Hashers c) (content : Bytes) : Nat × Hashers c :=
  (b.memory.size, { b with memory := b.memory.allocate content })

/-- A buffer changed. -/
def edit (b : Hashers c) (address : Nat) (f : Bytes → Bytes) : Hashers c :=
  { b with memory := b.memory.write address (f (b.memory.read address)) }

/-- The number of the hasher that a command makes. -/
def make (b : Hashers c) (command : Command) : Nat × Hashers c :=
  let r := b.perform command
  (r.1.place, r.2)

/-- The digest of a hasher. -/
def readDigest (b : Hashers c) (i : Nat) : Bytes × Hashers c :=
  let r := b.perform (.digest i)
  (r.1.value, r.2)

end Hashers

/-! ## One code -/

/-- The numbers of the hashers of a code. -/
structure Nested where
  inner : Nat
  outer : Nat

/-- A key as one block in a buffer, which it is given the address of. A key longer than a block is
replaced by its digest, made by a hasher of its own, and wiped; zeros follow. -/
def holdKey (a : Algorithm) (key : Bytes) (b : Hashers a.construction) :
    Nat × Hashers a.construction :=
  let given := b.hold key
  let short :=
    if key.length > a.blockSize then
      let once := given.2.make (.create key)
      let digest := once.2.readDigest once.1
      let hashed := digest.2.hold digest.1
      (hashed.1, hashed.2.edit given.1 Buffer.wiped)
    else given
  (short.1, short.2.edit short.1 fun bs => bs ++ List.replicate (a.blockSize - bs.length) 0)

/-- Hashers that are fed the padded key; the buffer that it was in is wiped. -/
def nest (a : Algorithm) (key : Bytes) (b : Hashers a.construction) :
    Nested × Hashers a.construction :=
  let held := holdKey a key b
  let padded (b : Hashers a.construction) (pad : UInt8) := (b.memory.read held.1).map (· ^^^ pad)
  let inner := held.2.make (.create (padded held.2 0x36))
  let outer := inner.2.make (.create (padded inner.2 0x5C))
  (⟨inner.1, outer.1⟩, outer.2.edit held.1 Buffer.wiped)

/-- The code of everything fed so far. -/
def Nested.read (n : Nested) (b : Hashers c) : Bytes × Hashers c :=
  let outer := b.make (.copy n.outer)
  let inner := outer.2.readDigest n.inner
  (inner.2.perform (.update outer.1 inner.1)).2.readDigest outer.1

/-! ## Several codes -/

/-- What is asked of codes that are known by number. -/
inductive Request where
  /-- A new code under a key, and the first piece of its message. -/
  | create (key message : Material)
  | update (i : Nat) (message : Material)
  /-- A new code, copied from another. -/
  | copy (i : Nat)
  | digest (i : Nat)
  | hexDigest (i : Nat)
  deriving DecidableEq, Repr

/-- Codes by number, and the hashers that they have. -/
structure Hmacs (a : Algorithm) where
  hashers : Hashers a.construction
  nested : List Nested

namespace Hmacs

variable {a : Algorithm}

/-- No codes yet. -/
def empty (a : Algorithm) : Hmacs a := ⟨.empty _, []⟩

/-- One more code. -/
def add (s : Hmacs a) (n : Nested) (b : Hashers a.construction) : Answer × Hmacs a :=
  (.number s.nested.length, ⟨b, s.nested ++ [n]⟩)

/-- What is done with the code of a number, if there is one. -/
def withNested (s : Hmacs a) (i : Nat) (f : Nested → Answer × Hmacs a) : Answer × Hmacs a :=
  match s.nested[i]? with
  | some n => f n
  | none => (.missing, s)

/-- What a request answers, and what it leaves behind. -/
def perform (s : Hmacs a) : Request → Answer × Hmacs a
  | .create key message =>
    let fresh := nest a key.toBytes s.hashers
    let fed := if message.isEmpty then fresh.2
      else (fresh.2.perform (.update fresh.1.inner message.toBytes)).2
    s.add fresh.1 fed
  | .update i message => s.withNested i fun n =>
    (.done, { s with hashers := (s.hashers.perform (.update n.inner message.toBytes)).2 })
  | .copy i => s.withNested i fun n =>
    let inner := s.hashers.make (.copy n.inner)
    let outer := inner.2.make (.copy n.outer)
    s.add ⟨inner.1, outer.1⟩ outer.2
  | .digest i => s.withNested i fun n =>
    let r := n.read s.hashers
    (.digest r.1, { s with hashers := r.2 })
  | .hexDigest i => s.withNested i fun n =>
    let r := n.read s.hashers
    (.hex (Bytes.toHex r.1), { s with hashers := r.2 })

/-- What a sequence of requests leaves behind. -/
def run (s : Hmacs a) (requests : List Request) : Hmacs a :=
  requests.foldl (fun s request => (s.perform request).2) s

/-- What a sequence of requests answers. -/
def answers (s : Hmacs a) : List Request → List Answer
  | [] => []
  | request :: requests =>
    let r := s.perform request
    r.1 :: r.2.answers requests

end Hmacs

end Airgap.Digest
