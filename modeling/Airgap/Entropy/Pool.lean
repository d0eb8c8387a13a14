import Airgap.Entropy.Bits
import Airgap.Width

/-!
# The entropy pool

A pool is a sequence of bits packed into bytes, the first bit at the top of the first byte.

* `Pool.appendBit`, `Pool.appendBits`, `Pool.truncate`, `Pool.clear`: the operations. One that fails
  can leave a pool behind whose buffer is already cut, so each answers the pool with its outcome.
* `Pool.bit`, `Pool.bits`, `Pool.toBytes`: what the pool holds.
* `Pool.perform`, `Pool.performAll`: the operations as data, one and in sequence.

Lengths are integers: a pool can be cut to a negative one.
-/

namespace Airgap.Entropy

/-- Where the bits of a pool stand in its bytes. -/
inductive Alignment where
  | left
  | right
  deriving DecidableEq, Repr

/-- The alignment of a name. -/
def Alignment.ofName? (s : String) : Option Alignment :=
  if s = "left" then some .left else if s = "right" then some .right else none

/-- Packed bits and their number. -/
structure Pool where
  buffer : Array UInt8
  length : Int
  deriving DecidableEq, Repr

namespace Pool

/-- A pool after an operation, and whether the operation failed. -/
abbrev Outcome := Pool × Except Error Unit

/-- No bits. -/
def empty : Pool := ⟨#[], 0⟩

/-- A buffer with its last byte changed, if it has one. -/
def modifyLast (f : UInt8 → UInt8) (bs : Array UInt8) : Array UInt8 := bs.modify (bs.size - 1) f

@[simp] theorem size_modifyLast (f : UInt8 → UInt8) (bs : Array UInt8) :
    (modifyLast f bs).size = bs.size := Array.size_modify

theorem modifyLast_push (f : UInt8 → UInt8) (bs : Array UInt8) (b : UInt8) :
    modifyLast f (bs.push b) = bs.push (f b) := by
  apply Array.ext
  · rw [size_modifyLast, Array.size_push, Array.size_push]
  · intro i hi _
    rw [size_modifyLast, Array.size_push] at hi
    simp only [modifyLast, Array.getElem_modify, Array.getElem_push, Array.size_push]
    grind

/-- The bytes before position `size`, which counts from the end if negative. -/
def cut (size : Int) (bs : Array UInt8) : Array UInt8 :=
  if 0 ≤ size then bs.take size.toNat else bs.take (bs.size + size).toNat

/-- Appends a bit: a new byte is begun every eight bits, and a one is put into the last byte. -/
def appendBit (p : Pool) (bit : Bool) : Outcome :=
  let buffer := if p.length % 8 = 0 then p.buffer.push 0 else p.buffer
  if !bit then (⟨buffer, p.length + 1⟩, .ok ())
  else if buffer.isEmpty then (⟨buffer, p.length⟩, .error .bufferIndex)
  else
    let mark := 0x80 >>> UInt8.ofNat (p.length % 8).toNat
    (⟨modifyLast (· ||| mark) buffer, p.length + 1⟩, .ok ())

/-- Appends bits up to the first that fails. -/
def appendAll (p : Pool) : List Bool → Outcome
  | [] => (p, .ok ())
  | b :: bs =>
    match p.appendBit b with
    | (q, .ok ()) => appendAll q bs
    | failed => failed

/-- Appends the `width` low bits of an integer, most significant first. -/
def appendBits (p : Pool) (value width : Int) : Outcome := p.appendAll (bitsOf width.toNat value)

/-- The bit at a position. -/
def bit (p : Pool) (i : Int) : Except Error Bool :=
  if 0 ≤ i ∧ i < p.length then
    match p.buffer[(i / 8).toNat]? with
    | some b => .ok (b.toNat.testBit (7 - (i % 8).toNat))
    | none => .error .bufferIndex
  else .error .poolIndex

/-- All bits, in order. -/
def bits (p : Pool) : Except Error (List Bool) :=
  if p.length < 0 then .error .negativeBits
  else (List.range p.length.toNat).mapM fun i : Nat => p.bit i

/-- Drops the bits from position `count` on. Whole bytes are cut first, and then the low bits of the
last byte are zeroed. A position is refused below the words only: none that cuts is above them. -/
def truncate (p : Pool) (count : Int) : Outcome :=
  if p.length ≤ count then (p, .ok ())
  else
    let size := (count + 7) / 8
    if size < -(wordLimit : Int) then (p, .error .positionWidth)
    else if size < -(p.buffer.size : Int) then (p, .error .bufferIndex)
    else
      let zeroed := if size < 0 then p.buffer.map fun _ => 0 else p.buffer
      let kept := cut size zeroed
      if count % 8 = 0 then (⟨kept, count⟩, .ok ())
      else if kept.isEmpty then (⟨kept, p.length⟩, .error .bufferIndex)
      else
        let mask := 0xFF <<< UInt8.ofNat (8 - (count % 8).toNat)
        (⟨modifyLast (· &&& mask) kept, count⟩, .ok ())

/-- The pool without any bits. -/
def clear (_ : Pool) : Pool := empty

/-- The first `count` bits as bytes: at the top of the bytes with zeros behind them, or at the
bottom with zeros in front. As the pool has these bits, only a negative number of bytes can be
refused. -/
def toBytes (p : Pool) (count : Int) (align : Option Alignment) : Except Error Bytes :=
  if p.length < count then .error (.poolTooShort p.length count)
  else
    let size := (count + 7) / 8
    let spare := (size * 8 - count).toNat
    let value := if count = 0 then 0 else Bytes.toNat (cut size p.buffer).toList >>> spare
    match align with
    | none => .error .alignment
    | some align =>
      if size < -(wordLimit : Int) then .error .lengthWidth
      else if size < 0 then .error .negativeLength
      else match align with
        | .left => .ok (Bytes.ofNat size.toNat (value <<< spare))
        | .right => .ok (Bytes.ofNat size.toNat value)

/-! ## All that changes a pool -/

/-- What changes a pool. -/
inductive Operation where
  | appendBit (bit : Bool)
  | appendBits (value width : Int)
  | truncate (count : Int)
  | clear
  deriving DecidableEq, Repr

/-- Performs an operation. -/
def perform (p : Pool) : Operation → Outcome
  | .appendBit bit => p.appendBit bit
  | .appendBits value width => p.appendBits value width
  | .truncate count => p.truncate count
  | .clear => (p.clear, .ok ())

/-- The pool that a sequence of operations leaves, whether or not they fail. -/
def performAll (p : Pool) (operations : List Operation) : Pool :=
  operations.foldl (fun p operation => (p.perform operation).1) p

end Pool

end Airgap.Entropy
