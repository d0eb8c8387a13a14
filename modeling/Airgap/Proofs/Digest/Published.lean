import Airgap.Bytes
import Airgap.Digest.Sha2
import Mathlib.Data.Nat.NthRoot.Defs
import Mathlib.Data.Nat.Nth
import Mathlib.Data.Nat.Prime.Basic

/-!
# The compression functions as they are published

Over words of a fixed number of bits, with every table by the rule that it was made from.

* `scaledRoot`: roots with so many binary digits behind the point, from which all constants come.
* `Fips180.Member`: what SHA-256 and SHA-512 have of their own. `Fips180.schedule` is the message schedule
  by its recurrence, `Fips180.working` the working variables after so many rounds.
* `PublishedRipemd.Line`: one of the two lines of RIPEMD-160, step by step; the order of the message words
  comes from two permutations, and a rotation belongs to a message word and a round.
-/

namespace Airgap.Digest

/-- `⌊2 ^ bits · ᵏ√n⌋`, the `k`-th root with `bits` binary digits behind the point. -/
def scaledRoot (bits k n : ℕ) : ℕ := Nat.nthRoot k (n * 2 ^ (k * bits))

/-! ## SHA-256 and SHA-512 -/

namespace Sha2.State

variable {V W : Type}

/-- The eight words of a state in their order. -/
def words (s : State W) : List W := [s.a, s.b, s.c, s.d, s.e, s.f, s.g, s.h]

/-- Eight words as a state. -/
def ofWords? : List W → Option (State W)
  | [a, b, c, d, e, f, g, h] => some ⟨a, b, c, d, e, f, g, h⟩
  | _ => none

/-- A function applied to each word. -/
def map (f : V → W) (s : State V) : State W :=
  ⟨f s.a, f s.b, f s.c, f s.d, f s.e, f s.f, f s.g, f s.h⟩

end Sha2.State

namespace Fips180

/-- The number of rounds and the functions of one word of a member of the family with words of `w`
bits. -/
structure Member (w : ℕ) where
  rounds : ℕ
  bigSigma0 : BitVec w → BitVec w
  bigSigma1 : BitVec w → BitVec w
  smallSigma0 : BitVec w → BitVec w
  smallSigma1 : BitVec w → BitVec w

def sha256 : Member 32 where
  rounds := 64
  bigSigma0 x := x.rotateRight 2 ^^^ x.rotateRight 13 ^^^ x.rotateRight 22
  bigSigma1 x := x.rotateRight 6 ^^^ x.rotateRight 11 ^^^ x.rotateRight 25
  smallSigma0 x := x.rotateRight 7 ^^^ x.rotateRight 18 ^^^ (x >>> 3)
  smallSigma1 x := x.rotateRight 17 ^^^ x.rotateRight 19 ^^^ (x >>> 10)

def sha512 : Member 64 where
  rounds := 80
  bigSigma0 x := x.rotateRight 28 ^^^ x.rotateRight 34 ^^^ x.rotateRight 39
  bigSigma1 x := x.rotateRight 14 ^^^ x.rotateRight 18 ^^^ x.rotateRight 41
  smallSigma0 x := x.rotateRight 1 ^^^ x.rotateRight 8 ^^^ (x >>> 7)
  smallSigma1 x := x.rotateRight 19 ^^^ x.rotateRight 61 ^^^ (x >>> 6)

variable {w : ℕ}

/-- The constant of round `t`: the first bits of the fractional part of the cube root of the prime with
that number. -/
noncomputable def constant (w t : ℕ) : BitVec w :=
  BitVec.ofNat w (scaledRoot w 3 (Nat.nth Nat.Prime t))

/-- Word `t` of a block, most significant byte first. -/
def blockWord (w : ℕ) (block : Bytes) (t : ℕ) : BitVec w :=
  BitVec.ofNat w (Bytes.toNat ((block.drop (t * (w / 8))).take (w / 8)))

/-- Word `t` of the message schedule. -/
def schedule (m : Member w) (block : Bytes) (t : ℕ) : BitVec w :=
  if t < 16 then blockWord w block t
  else
    m.smallSigma1 (schedule m block (t - 2)) + schedule m block (t - 7) +
      m.smallSigma0 (schedule m block (t - 15)) + schedule m block (t - 16)

def choose (x y z : BitVec w) : BitVec w := (x &&& y) ^^^ (~~~x &&& z)

def majority (x y z : BitVec w) : BitVec w := (x &&& y) ^^^ (x &&& z) ^^^ (y &&& z)

/-- The working variables after one more round, with its constant and its word of the schedule. -/
def step (m : Member w) (v : Sha2.State (BitVec w)) (k x : BitVec w) : Sha2.State (BitVec w) :=
  let t1 := v.h + m.bigSigma1 v.e + choose v.e v.f v.g + k + x
  let t2 := m.bigSigma0 v.a + majority v.a v.b v.c
  { h := v.g, g := v.f, f := v.e, e := v.d + t1, d := v.c, c := v.b, b := v.a, a := t1 + t2 }

/-- The working variables after `t` rounds. -/
noncomputable def working (m : Member w) (h : Sha2.State (BitVec w)) (block : Bytes) :
    ℕ → Sha2.State (BitVec w)
  | 0 => h
  | t + 1 => step m (working m h block t) (constant w t) (schedule m block t)

/-- The hash value after one more block. -/
noncomputable def compress (m : Member w) (h : Sha2.State (BitVec w)) (block : Bytes) :
    Sha2.State (BitVec w) :=
  let v := working m h block m.rounds
  ⟨v.a + h.a, v.b + h.b, v.c + h.c, v.d + h.d, v.e + h.e, v.f + h.f, v.g + h.g, v.h + h.h⟩

variable {m : Member w} {block : Bytes} {t : ℕ}

theorem schedule_of_lt (ht : t < 16) : schedule m block t = blockWord w block t := by
  rw [schedule, if_pos ht]

theorem schedule_of_le (ht : 16 ≤ t) :
    schedule m block t = m.smallSigma1 (schedule m block (t - 2)) + schedule m block (t - 7) +
      m.smallSigma0 (schedule m block (t - 15)) + schedule m block (t - 16) := by
  rw [schedule, if_neg (by omega)]

end Fips180

/-! ## RIPEMD-160 -/

namespace PublishedRipemd

/-- The five chaining words, or the five variables of a line. -/
structure Chain (W : Type) where
  a : W
  b : W
  c : W
  d : W
  e : W
  deriving DecidableEq, Repr

namespace Chain

variable {V W : Type}

/-- The five words in their order. -/
def words (s : Chain W) : List W := [s.a, s.b, s.c, s.d, s.e]

/-- Five words as a chain. -/
def ofWords? : List W → Option (Chain W)
  | [a, b, c, d, e] => some ⟨a, b, c, d, e⟩
  | _ => none

/-- A function applied to each word. -/
def map (f : V → W) (s : Chain V) : Chain W := ⟨f s.a, f s.b, f s.c, f s.d, f s.e⟩

end Chain

/-- Where the next round of a line takes its message words from. -/
def rho (i : ℕ) : ℕ := [7, 4, 13, 1, 10, 6, 15, 3, 12, 0, 9, 5, 2, 14, 11, 8].getD i 0

/-- Where the right line takes the message words of its first round from. -/
def pi (i : ℕ) : ℕ := (9 * i + 5) % 16

/-- The rotation of message word `i` in round `r`, which is the same in both lines. -/
def shift (r i : ℕ) : ℕ :=
  ([[11, 14, 15, 12, 5, 8, 7, 9, 11, 13, 14, 15, 6, 7, 9, 8],
    [12, 13, 11, 15, 6, 9, 9, 7, 12, 15, 11, 13, 7, 8, 7, 7],
    [13, 15, 14, 11, 7, 7, 6, 8, 13, 14, 13, 12, 5, 5, 6, 9],
    [14, 11, 12, 14, 8, 6, 5, 5, 15, 12, 15, 14, 9, 9, 8, 6],
    [15, 12, 13, 13, 9, 5, 8, 6, 14, 11, 12, 11, 8, 6, 5, 5]].getD r []).getD i 0

/-- The function of round `r` of the left line. -/
def mix (r : ℕ) (x y z : BitVec 32) : BitVec 32 :=
  match r with
  | 0 => x ^^^ y ^^^ z
  | 1 => (x &&& y) ||| (~~~x &&& z)
  | 2 => (x ||| ~~~y) ^^^ z
  | 3 => (x &&& z) ||| (y &&& ~~~z)
  | _ => x ^^^ (y ||| ~~~z)

/-- What step `j` of a line takes: its function, its constant, its message word and its rotation. -/
structure Line where
  mix : ℕ → BitVec 32 → BitVec 32 → BitVec 32 → BitVec 32
  constant : ℕ → BitVec 32
  word : ℕ → ℕ
  rotation : ℕ → ℕ

/-- The constant of round `r` of the left line: none at first, then the square roots of the first four
primes. -/
noncomputable def leftConstant : ℕ → BitVec 32
  | 0 => 0
  | r + 1 => BitVec.ofNat 32 (scaledRoot 30 2 (Nat.nth Nat.Prime r))

/-- The constant of round `r` of the right line: the cube roots of the first four primes, then none. -/
noncomputable def rightConstant (r : ℕ) : BitVec 32 :=
  if r < 4 then BitVec.ofNat 32 (scaledRoot 30 3 (Nat.nth Nat.Prime r)) else 0

/-- The left line. -/
noncomputable def left : Line where
  mix j := mix (j / 16)
  constant j := leftConstant (j / 16)
  word j := rho^[j / 16] (j % 16)
  rotation j := shift (j / 16) (rho^[j / 16] (j % 16))

/-- The right line, with the functions backwards. -/
noncomputable def right : Line where
  mix j := mix ((79 - j) / 16)
  constant j := rightConstant (j / 16)
  word j := rho^[j / 16] (pi (j % 16))
  rotation j := shift (j / 16) (rho^[j / 16] (pi (j % 16)))

/-- Word `i` of a block, least significant byte first. -/
def blockWord (block : Bytes) (i : ℕ) : BitVec 32 :=
  BitVec.ofNat 32 (Bytes.toNat ((block.drop (i * 4)).take 4).reverse)

/-- The variables of a line after one more step. -/
def step (f : BitVec 32 → BitVec 32 → BitVec 32 → BitVec 32) (v : Chain (BitVec 32))
    (x k : BitVec 32) (n : ℕ) : Chain (BitVec 32) :=
  let t := (v.a + f v.b v.c v.d + x + k).rotateLeft n + v.e
  { a := v.e, e := v.d, d := v.c.rotateLeft 10, c := v.b, b := t }

/-- The variables of a line after `j` steps. -/
def Line.run (l : Line) (h : Chain (BitVec 32)) (block : Bytes) : ℕ → Chain (BitVec 32)
  | 0 => h
  | j + 1 =>
    step (l.mix j) (l.run h block j) (blockWord block (l.word j)) (l.constant j) (l.rotation j)

/-- The chaining words after one more block. -/
noncomputable def compress (h : Chain (BitVec 32)) (block : Bytes) : Chain (BitVec 32) :=
  let v := left.run h block 80
  let v' := right.run h block 80
  ⟨h.b + v.c + v'.d, h.c + v.d + v'.e, h.d + v.e + v'.a, h.e + v.a + v'.b, h.a + v.b + v'.c⟩

end PublishedRipemd

end Airgap.Digest
