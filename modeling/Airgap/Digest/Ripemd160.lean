import Airgap.Digest.Construction

/-!
# RIPEMD-160

Two lines of five rounds of sixteen steps run side by side over the little-endian words of a block,
and their results are added crosswise into the state.

* `Ripemd160.Round`: what the sixteen steps of a round share, and the word and rotation of each.
* `Ripemd160.compress`, and the construction `ripemd160`.
-/

namespace Airgap.Digest

/-- Left rotation of a 32-bit word by `0 < n < 32`. -/
@[inline] def rotl32 (x : UInt32) (n : UInt32) : UInt32 := (x <<< n) ||| (x >>> (32 - n))

namespace Ripemd160

/-- Five chaining words. -/
structure State where
  a : UInt32
  b : UInt32
  c : UInt32
  d : UInt32
  e : UInt32
  deriving DecidableEq, Repr

/-- A round: its Boolean function, its constant, and for each step the index of the message word and
the rotation. -/
structure Round where
  f : UInt32 → UInt32 → UInt32 → UInt32
  constant : UInt32
  words : List Nat
  rotations : List UInt32

/-! ## The tables -/

/-- The Boolean functions in the order of the left line; the right line takes them backwards. -/
def functions : List (UInt32 → UInt32 → UInt32 → UInt32) := [
  fun x y z => x ^^^ y ^^^ z,
  fun x y z => (x &&& y) ||| (~~~x &&& z),
  fun x y z => (x ||| ~~~y) ^^^ z,
  fun x y z => (x &&& z) ||| (y &&& ~~~z),
  fun x y z => x ^^^ (y ||| ~~~z)]

/-- The constants of the left line. -/
def leftConstants : List UInt32 := [0x00000000, 0x5A827999, 0x6ED9EBA1, 0x8F1BBCDC, 0xA953FD4E]

/-- The constants of the right line. -/
def rightConstants : List UInt32 := [0x50A28BE6, 0x5C4DD124, 0x6D703EF3, 0x7A6D76E9, 0x00000000]

/-- The message word of each step of the left line. -/
def leftWords : List (List Nat) := [
  [0, 1, 2, 3, 4, 5, 6, 7, 8, 9, 10, 11, 12, 13, 14, 15],
  [7, 4, 13, 1, 10, 6, 15, 3, 12, 0, 9, 5, 2, 14, 11, 8],
  [3, 10, 14, 4, 9, 15, 8, 1, 2, 7, 0, 6, 13, 11, 5, 12],
  [1, 9, 11, 10, 0, 8, 12, 4, 13, 3, 7, 15, 14, 5, 6, 2],
  [4, 0, 5, 9, 7, 12, 2, 10, 14, 1, 3, 8, 11, 6, 15, 13]]

/-- The message word of each step of the right line. -/
def rightWords : List (List Nat) := [
  [5, 14, 7, 0, 9, 2, 11, 4, 13, 6, 15, 8, 1, 10, 3, 12],
  [6, 11, 3, 7, 0, 13, 5, 10, 14, 15, 8, 12, 4, 9, 1, 2],
  [15, 5, 1, 3, 7, 14, 6, 9, 11, 8, 12, 2, 10, 0, 4, 13],
  [8, 6, 4, 1, 3, 11, 15, 0, 5, 12, 2, 13, 9, 7, 10, 14],
  [12, 15, 10, 4, 1, 5, 8, 7, 6, 2, 13, 14, 0, 3, 9, 11]]

/-- The rotation of each step of the left line. -/
def leftRotations : List (List UInt32) := [
  [11, 14, 15, 12, 5, 8, 7, 9, 11, 13, 14, 15, 6, 7, 9, 8],
  [7, 6, 8, 13, 11, 9, 7, 15, 7, 12, 15, 9, 11, 7, 13, 12],
  [11, 13, 6, 7, 14, 9, 13, 15, 14, 8, 13, 6, 5, 12, 7, 5],
  [11, 12, 14, 15, 14, 15, 9, 8, 9, 14, 5, 6, 8, 6, 5, 12],
  [9, 15, 5, 11, 6, 8, 13, 12, 5, 12, 13, 14, 11, 8, 5, 6]]

/-- The rotation of each step of the right line. -/
def rightRotations : List (List UInt32) := [
  [8, 9, 9, 11, 13, 15, 15, 5, 7, 7, 8, 11, 14, 14, 12, 6],
  [9, 13, 15, 7, 12, 8, 9, 11, 7, 7, 12, 7, 6, 15, 13, 11],
  [9, 7, 15, 11, 8, 6, 6, 14, 12, 13, 5, 14, 13, 13, 7, 5],
  [15, 5, 8, 11, 14, 14, 6, 14, 6, 9, 12, 9, 12, 5, 15, 8],
  [8, 5, 12, 9, 12, 5, 14, 6, 8, 13, 6, 5, 15, 13, 11, 11]]

/-- The rounds that four tables of one row a round describe. -/
def rounds (fs : List (UInt32 → UInt32 → UInt32 → UInt32)) (ks : List UInt32)
    (words : List (List Nat)) (rotations : List (List UInt32)) : List Round :=
  ((fs.zip ks).zip (words.zip rotations)).map fun p => ⟨p.1.1, p.1.2, p.2.1, p.2.2⟩

/-- The left line. -/
def leftLine : List Round := rounds functions leftConstants leftWords leftRotations

/-- The right line. -/
def rightLine : List Round := rounds functions.reverse rightConstants rightWords rightRotations

/-! ## The compression function -/

/-- One step with its message word and rotation. -/
def step (f : UInt32 → UInt32 → UInt32 → UInt32) (k : UInt32) (s : State) (x n : UInt32) : State :=
  ⟨s.e, rotl32 (s.a + f s.b s.c s.d + x + k) n + s.e, s.b, rotl32 s.c 10, s.d⟩

/-- The sixteen steps of a round. -/
def Round.run (r : Round) (block : Array UInt32) (s : State) : State :=
  (r.words.zip r.rotations).foldl (fun s p => step r.f r.constant s (block.getD p.1 0) p.2) s

/-- All the rounds of a line. -/
def runLine (line : List Round) (block : Array UInt32) (s : State) : State :=
  line.foldl (fun s r => r.run block s) s

/-- The word of a little-endian byte string. -/
def wordOf (bs : Bytes) : UInt32 := UInt32.ofNat (Bytes.toNat bs.reverse)

/-- The sixteen little-endian words of a block. -/
def blockWords (block : Bytes) : Array UInt32 := ((Bytes.blocks 4 16 block).map wordOf).toArray

/-- The compression function. -/
def compress (s : State) (block : Bytes) : State :=
  let l := runLine leftLine (blockWords block) s
  let r := runLine rightLine (blockWords block) s
  ⟨s.b + l.c + r.d, s.c + l.d + r.e, s.d + l.e + r.a, s.e + l.a + r.b, s.a + l.b + r.c⟩

/-- The five words of a state, little-endian. -/
def output (s : State) : Bytes :=
  [s.a, s.b, s.c, s.d, s.e].flatMap fun w => Bytes.ofNatLE 4 w.toNat

theorem length_output (s : State) : (output s).length = 20 := by
  simp only [output, List.flatMap_cons, List.flatMap_nil, List.length_append,
    Bytes.length_ofNatLE, List.length_nil]

/-- The chaining words before the first block. -/
def initial : State := ⟨0x67452301, 0xEFCDAB89, 0x98BADCFE, 0x10325476, 0xC3D2E1F0⟩

end Ripemd160

/-- RIPEMD-160: 64-byte blocks, an 8-byte little-endian length field, 20-byte digests. -/
def ripemd160 : Construction where
  State := Ripemd160.State
  initial := Ripemd160.initial
  compress := Ripemd160.compress
  output := Ripemd160.output
  blockSize := 64
  lengthSize := 8
  order := .little
  digestSize := 20
  lengthSize_lt := by decide
  length_output := Ripemd160.length_output

end Airgap.Digest
