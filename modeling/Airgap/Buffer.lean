import Airgap.Width

/-!
# Wiping buffers

Key material is kept in buffers that are overwritten with zeros once it is no longer needed,
whatever happens in between.

* `Buffer.wiped`, `Buffer.wipedRange`: a buffer after all of it, or a part, is overwritten.
* `Buffer.wipe`: what can be wiped and what cannot.
* `Buffer.allocate`, `Buffer.withSecure`: a buffer that is wiped at the end of a block.
-/

namespace Airgap

/-- Something that may hold key material. -/
inductive Buffer where
  | writable (bs : Bytes)
  | readOnly (bs : Bytes)
  | absent
  deriving DecidableEq, Repr

namespace Buffer

/-- A byte string after it is overwritten. -/
def wiped (bs : Bytes) : Bytes := List.replicate bs.length 0

@[simp] theorem length_wiped (bs : Bytes) : (wiped bs).length = bs.length := List.length_replicate

/-- The place in a sequence of `length` items that a bound stands for: counted from the end if
negative, and no further than either end. -/
def boundPlace (length : Nat) (bound : Int) : Nat :=
  if bound < 0 then (length + bound).toNat else min length bound.toNat

/-- A byte string after the bytes from `start` up to `stop` are overwritten; a missing bound is the
end of the string. -/
def wipedRange (start stop : Option Int) (bs : Bytes) : Bytes :=
  let first := boundPlace bs.length (start.getD 0)
  let last := boundPlace bs.length (stop.getD bs.length)
  bs.take first ++ wiped ((bs.take last).drop first) ++ bs.drop (max first last)

/-- The content after wiping, if there is any. -/
def wipe : Buffer → Except Error (Option Bytes)
  | .writable bs => .ok (some (wiped bs))
  | .readOnly _ => .error .readOnlyBuffer
  | .absent => .ok none

/-- A buffer of zeros. -/
def allocate (size : Int) : Except Error Bytes :=
  if !fitsWord size then .error .sizeWidth
  else if size < 0 then .error .negativeCount
  else if memoryLimit ≤ size then .error .outOfMemory
  else .ok (List.replicate size.toNat 0)

/-- The content of a buffer inside a block, and after it: `body` says what the block leaves in the
buffer. -/
def withSecure (initial : Bytes) (body : Bytes → Bytes) : Bytes × Bytes :=
  (initial, wiped (body initial))

end Buffer

end Airgap
