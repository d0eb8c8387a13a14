import Airgap.Proofs.Digest.Padding
import Airgap.Proofs.Digest.Tables
import Mathlib.Tactic.IntervalCases

/-!
# The compression functions on numbers under masks

The same rounds on numbers without a bound, where a mask brings a sum or a rotation back to the bits of a
word, and a word is complemented by the exclusive or with the mask.

* `Masked.Member.compress`, `Masked.compressLines`: the numbers of the state after one more block; none
  if the state or the block does not have the right size, or a list has no element at a place.
* `Masked.Width.Fits`: a mask has a one for each bit of a word. On the numbers of words, masked operations
  are then those of the words: `and_mask`, `xor_mask`, `rotr_toNat`, `rotl_toNat`.
* `Masked.Member.compress_toNat`, `Masked.compressLines_toNat`: on the numbers of words, the functions
  are the published ones.
-/

namespace Airgap.Digest

open PublishedRipemd (Chain)

/-- A fold that comes to `g i` before the element with number `i`. -/
theorem foldlM_eq_some {α σ : Type} {f : σ → α → Option σ} {as : List α} {n : ℕ}
    (hn : as.length = n) (g : ℕ → σ)
    (h : ∀ i (hi : i < as.length), f (g i) as[i] = some (g (i + 1))) :
    as.foldlM f (g 0) = some (g n) := by
  subst hn
  induction as generalizing g with
  | nil => rfl
  | cons a as ih =>
    rw [List.foldlM_cons, show f (g 0) a = some (g 1) from h 0 (Nat.zero_lt_succ _)]
    exact ih (fun i => g (i + 1)) fun i hi => h (i + 1) (Nat.succ_lt_succ hi)

namespace Masked

/-! ## Words under a mask -/

/-- The bits of a word, and the number that has ones in them. -/
structure Width where
  bits : ℕ
  mask : ℕ

def word32 : Width := ⟨32, 0xFFFFFFFF⟩

def word64 : Width := ⟨64, 0xFFFFFFFFFFFFFFFF⟩

namespace Width

/-- Right rotation by `0 < n < bits`. -/
def rotr (w : Width) (x n : ℕ) : ℕ := (x >>> n ||| x <<< (w.bits - n)) &&& w.mask

/-- Left rotation by `0 < n < bits`. -/
def rotl (w : Width) (x n : ℕ) : ℕ := (x <<< n ||| x >>> (w.bits - n)) &&& w.mask

/-- The mask belongs to words of `b` bits. -/
structure Fits (w : Width) (b : ℕ) : Prop where
  bits_eq : w.bits = b
  mask_eq : w.mask = 2 ^ b - 1

theorem word32_fits : word32.Fits 32 := ⟨rfl, rfl⟩

theorem word64_fits : word64.Fits 64 := ⟨rfl, rfl⟩

variable {w : Width} {b : ℕ}

theorem Fits.and_mask (hw : w.Fits b) (n : ℕ) : n &&& w.mask = (BitVec.ofNat b n).toNat := by
  rw [hw.mask_eq, Nat.and_two_pow_sub_one_eq_mod, BitVec.toNat_ofNat]

theorem Fits.xor_mask (hw : w.Fits b) (x : BitVec b) : x.toNat ^^^ w.mask = (~~~x).toNat := by
  rw [hw.mask_eq, ← BitVec.toNat_allOnes, ← BitVec.toNat_xor, BitVec.xor_allOnes]

theorem Fits.rotr_toNat (hw : w.Fits b) (x : BitVec b) {n : ℕ} (hn : n < b) :
    w.rotr x.toNat n = (x.rotateRight n).toNat := by
  have hlow : x.toNat >>> n < 2 ^ b := by
    rw [← BitVec.toNat_ushiftRight]
    exact BitVec.isLt _
  rw [rotr, hw.bits_eq, hw.mask_eq, Nat.and_two_pow_sub_one_eq_mod, Nat.or_mod_two_pow,
    Nat.mod_eq_of_lt hlow, BitVec.toNat_rotateRight, Nat.mod_eq_of_lt hn]

theorem Fits.rotl_toNat (hw : w.Fits b) (x : BitVec b) {n : ℕ} (hn : n < b) :
    w.rotl x.toNat n = (x.rotateLeft n).toNat := by
  have hlow : x.toNat >>> (b - n) < 2 ^ b := by
    rw [← BitVec.toNat_ushiftRight]
    exact BitVec.isLt _
  rw [rotl, hw.bits_eq, hw.mask_eq, Nat.and_two_pow_sub_one_eq_mod, Nat.or_mod_two_pow,
    Nat.mod_eq_of_lt hlow, BitVec.toNat_rotateLeft, Nat.mod_eq_of_lt hn]

end Width

/-- The sixteen words of a block. -/
def unpack (order : ByteOrder) (size : ℕ) (block : Bytes) : Option (List ℕ) :=
  if block.length = 16 * size then some ((Bytes.blocks size 16 block).map order.read) else none

/-- The bytes of a word write no number that the word has no bits for. -/
theorem unpack_eq (order : ByteOrder) {size : ℕ} {block : Bytes} (h : block.length = 16 * size) :
    unpack order size block = some ((List.range 16).map fun t =>
      order.read ((block.drop (t * size)).take size) % 2 ^ (8 * size)) := by
  rw [unpack, if_pos h, Bytes.blocks_eq, List.map_map]
  refine congrArg some (List.map_congr_left fun t ht => ?_)
  have hlength : ((block.drop (t * size)).take size).length = size := by
    have hle : (t + 1) * size ≤ 16 * size := Nat.mul_le_mul_right _ (List.mem_range.mp ht)
    rw [Nat.succ_mul] at hle
    rw [List.length_take, List.length_drop]
    omega
  have hlt := order.read_lt ((block.drop (t * size)).take size)
  rw [hlength, Bytes.capacity_eq, show (256 : ℕ) = 2 ^ 8 from rfl, ← Nat.pow_mul] at hlt
  exact (Nat.mod_eq_of_lt hlt).symm

/-! ## SHA-256 and SHA-512 -/

/-- The words, the rounds with their constants and the functions of one word of a member of the
family. -/
structure Member where
  width : Width
  rounds : ℕ
  constants : List ℕ
  bigSigma0 : ℕ → ℕ
  bigSigma1 : ℕ → ℕ
  smallSigma0 : ℕ → ℕ
  smallSigma1 : ℕ → ℕ

def sha256 : Member where
  width := word32
  rounds := 64
  constants := Sha256.constants.map UInt32.toNat
  bigSigma0 x := word32.rotr x 2 ^^^ word32.rotr x 13 ^^^ word32.rotr x 22
  bigSigma1 x := word32.rotr x 6 ^^^ word32.rotr x 11 ^^^ word32.rotr x 25
  smallSigma0 x := word32.rotr x 7 ^^^ word32.rotr x 18 ^^^ (x >>> 3)
  smallSigma1 x := word32.rotr x 17 ^^^ word32.rotr x 19 ^^^ (x >>> 10)

def sha512 : Member where
  width := word64
  rounds := 80
  constants := Sha512.constants.map UInt64.toNat
  bigSigma0 x := word64.rotr x 28 ^^^ word64.rotr x 34 ^^^ word64.rotr x 39
  bigSigma1 x := word64.rotr x 14 ^^^ word64.rotr x 18 ^^^ word64.rotr x 41
  smallSigma0 x := word64.rotr x 1 ^^^ word64.rotr x 8 ^^^ (x >>> 7)
  smallSigma1 x := word64.rotr x 19 ^^^ word64.rotr x 61 ^^^ (x >>> 6)

namespace Member

theorem map_toNat_of_map_eq {W : Type} {b n : ℕ} {φ : W → BitVec b} {g : ℕ → BitVec b} {as : List W}
    (h : as.map φ = (List.range n).map g) :
    as.map (fun x => (φ x).toNat) = (List.range n).map fun t => (g t).toNat := by
  have hnumbers := congrArg (List.map BitVec.toNat) h
  rwa [List.map_map, List.map_map] at hnumbers

variable (f : Member)

/-- The schedule with its word `i`, which comes next. -/
def expand (w : List ℕ) (i : ℕ) : Option (List ℕ) := do
  let x ← w[i - 15]?
  let y ← w[i - 2]?
  let next := (← w[i - 16]?) + f.smallSigma0 x + (← w[i - 7]?) + f.smallSigma1 y
  return w ++ [next &&& f.width.mask]

/-- A word for each round, from the sixteen of a block. -/
def schedule (w : List ℕ) : Option (List ℕ) := (List.range' 16 (f.rounds - 16)).foldlM f.expand w

/-- One round with its constant and its word of the schedule. -/
def round (v : Sha2.State ℕ) (k w : ℕ) : Sha2.State ℕ :=
  let s1 := f.bigSigma1 v.e
  let ch := (v.e &&& v.f) ^^^ ((v.e ^^^ f.width.mask) &&& v.g)
  let t1 := (v.h + s1 + ch + k + w) &&& f.width.mask
  let s0 := f.bigSigma0 v.a
  let maj := (v.a &&& v.b) ^^^ (v.a &&& v.c) ^^^ (v.b &&& v.c)
  let t2 := (s0 + maj) &&& f.width.mask
  ⟨(t1 + t2) &&& f.width.mask, v.a, v.b, v.c, (v.d + t1) &&& f.width.mask, v.e, v.f, v.g⟩

/-- All rounds over a schedule. -/
def working (w : List ℕ) (v : Sha2.State ℕ) : Option (Sha2.State ℕ) :=
  (List.range f.rounds).foldlM (fun v i => do return f.round v (← f.constants[i]?) (← w[i]?)) v

/-- The state after one more block. -/
def compress (state : List ℕ) (block : Bytes) : Option (List ℕ) := do
  let w ← f.schedule (← unpack .big (f.width.bits / 8) block)
  let v ← f.working w (← Sha2.State.ofWords? state)
  return List.zipWith (fun s v => (s + v) &&& f.width.mask) state v.words

/-- The numbers are those of the published words. -/
structure Masks {b : ℕ} (f : Member) (m : Fips180.Member b) : Prop where
  fits : f.width.Fits b
  bytes_dvd : 8 ∣ b
  rounds_eq : f.rounds = m.rounds
  le_rounds : 16 ≤ m.rounds
  constants_eq : f.constants = (List.range m.rounds).map fun t => (Fips180.constant b t).toNat
  bigSigma0_toNat : ∀ x : BitVec b, f.bigSigma0 x.toNat = (m.bigSigma0 x).toNat
  bigSigma1_toNat : ∀ x : BitVec b, f.bigSigma1 x.toNat = (m.bigSigma1 x).toNat
  smallSigma0_toNat : ∀ x : BitVec b, f.smallSigma0 x.toNat = (m.smallSigma0 x).toNat
  smallSigma1_toNat : ∀ x : BitVec b, f.smallSigma1 x.toNat = (m.smallSigma1 x).toNat

theorem masks_sha256 : Masks sha256 Fips180.sha256 where
  fits := Width.word32_fits
  bytes_dvd := by decide
  rounds_eq := rfl
  le_rounds := by decide
  constants_eq := map_toNat_of_map_eq sha256_constants
  bigSigma0_toNat x := by
    simp (disch := decide) only [sha256, Fips180.sha256, BitVec.toNat_xor,
      Width.word32_fits.rotr_toNat]
  bigSigma1_toNat x := by
    simp (disch := decide) only [sha256, Fips180.sha256, BitVec.toNat_xor,
      Width.word32_fits.rotr_toNat]
  smallSigma0_toNat x := by
    simp (disch := decide) only [sha256, Fips180.sha256, BitVec.toNat_xor,
      BitVec.toNat_ushiftRight, Width.word32_fits.rotr_toNat]
  smallSigma1_toNat x := by
    simp (disch := decide) only [sha256, Fips180.sha256, BitVec.toNat_xor,
      BitVec.toNat_ushiftRight, Width.word32_fits.rotr_toNat]

theorem masks_sha512 : Masks sha512 Fips180.sha512 where
  fits := Width.word64_fits
  bytes_dvd := by decide
  rounds_eq := rfl
  le_rounds := by decide
  constants_eq := map_toNat_of_map_eq sha512_constants
  bigSigma0_toNat x := by
    simp (disch := decide) only [sha512, Fips180.sha512, BitVec.toNat_xor,
      Width.word64_fits.rotr_toNat]
  bigSigma1_toNat x := by
    simp (disch := decide) only [sha512, Fips180.sha512, BitVec.toNat_xor,
      Width.word64_fits.rotr_toNat]
  smallSigma0_toNat x := by
    simp (disch := decide) only [sha512, Fips180.sha512, BitVec.toNat_xor,
      BitVec.toNat_ushiftRight, Width.word64_fits.rotr_toNat]
  smallSigma1_toNat x := by
    simp (disch := decide) only [sha512, Fips180.sha512, BitVec.toNat_xor,
      BitVec.toNat_ushiftRight, Width.word64_fits.rotr_toNat]

variable {f} {b : ℕ} {m : Fips180.Member b}

theorem Masks.round_toNat (hf : f.Masks m) (v : Sha2.State (BitVec b)) (k x : BitVec b) :
    f.round (v.map BitVec.toNat) k.toNat x.toNat = (Fips180.step m v k x).map BitVec.toNat := by
  simp only [round, Fips180.step, Fips180.choose, Fips180.majority, Sha2.State.map,
    hf.bigSigma0_toNat, hf.bigSigma1_toNat, hf.fits.xor_mask, ← BitVec.toNat_and,
    ← BitVec.toNat_xor, hf.fits.and_mask, BitVec.ofNat_add, BitVec.ofNat_toNat,
    BitVec.setWidth_eq]

/-- The words of a block as they are published, as numbers. -/
theorem Masks.unpack_big (hf : f.Masks m) {block : Bytes} (hblock : block.length = 16 * (b / 8)) :
    unpack .big (f.width.bits / 8) block =
      some ((List.range 16).map fun t => (Fips180.blockWord b block t).toNat) := by
  rw [hf.fits.bits_eq, unpack_eq .big hblock, Nat.mul_div_cancel' hf.bytes_dvd]
  rfl

theorem Masks.expand_eq (hf : f.Masks m) {block : Bytes} {i : ℕ} (hi : 16 ≤ i) :
    f.expand ((List.range i).map fun t => (Fips180.schedule m block t).toNat) i =
      some ((List.range (i + 1)).map fun t => (Fips180.schedule m block t).toNat) := by
  rw [expand, getElem?_map_range (by omega), getElem?_map_range (by omega),
    getElem?_map_range (by omega), getElem?_map_range (by omega)]
  simp only [Option.bind_eq_bind, Option.bind_some, Option.pure_def, hf.smallSigma0_toNat,
    hf.smallSigma1_toNat, hf.fits.and_mask, BitVec.ofNat_add, BitVec.ofNat_toNat,
    BitVec.setWidth_eq]
  rw [List.range_succ, List.map_append, List.map_singleton, Fips180.schedule_of_le hi]
  -- the recurrence adds the same four words in another order
  congr 4
  ac_rfl

theorem Masks.schedule_eq (hf : f.Masks m) (block : Bytes) :
    f.schedule ((List.range 16).map fun t => (Fips180.blockWord b block t).toNat) =
      some ((List.range m.rounds).map fun t => (Fips180.schedule m block t).toNat) := by
  have hfirst : ((List.range 16).map fun t => (Fips180.blockWord b block t).toNat) =
      (List.range 16).map fun t => (Fips180.schedule m block t).toNat := by
    refine List.map_congr_left fun t ht => ?_
    rw [Fips180.schedule_of_lt (List.mem_range.mp ht)]
  have hlength : (List.range' 16 (m.rounds - 16)).length = m.rounds - 16 := List.length_range'
  have hall := foldlM_eq_some (f := f.expand) hlength
    (fun i => (List.range (16 + i)).map fun t => (Fips180.schedule m block t).toNat) ?_
  · rw [Nat.add_sub_cancel' hf.le_rounds] at hall
    rw [schedule, hf.rounds_eq, hfirst]
    exact hall
  · intro i hi
    rw [List.getElem_range', Nat.one_mul]
    exact hf.expand_eq (Nat.le_add_right 16 i)

theorem Masks.working_eq (hf : f.Masks m) (block : Bytes) (h : Sha2.State (BitVec b)) :
    f.working ((List.range m.rounds).map fun t => (Fips180.schedule m block t).toNat)
        (h.map BitVec.toNat) =
      some ((Fips180.working m h block m.rounds).map BitVec.toNat) := by
  rw [working, hf.rounds_eq]
  refine foldlM_eq_some List.length_range (fun i => (Fips180.working m h block i).map BitVec.toNat)
    fun i hi => ?_
  rw [List.length_range] at hi
  rw [List.getElem_range, hf.constants_eq, getElem?_map_range hi, getElem?_map_range hi]
  exact congrArg some (hf.round_toNat _ _ _)

/-- **On the numbers of words the masked function is the published one.** -/
theorem Masks.compress_toNat (hf : f.Masks m) {block : Bytes} (hblock : block.length = 16 * (b / 8))
    (h : Sha2.State (BitVec b)) :
    f.compress (h.map BitVec.toNat).words block =
      some ((Fips180.compress m h block).map BitVec.toNat).words := by
  have hstate : Sha2.State.ofWords? (h.map BitVec.toNat).words = some (h.map BitVec.toNat) := rfl
  -- no step fails, and what is left is the sum with the state before
  simp only [compress, hf.unpack_big hblock, hstate, hf.schedule_eq, hf.working_eq,
    Option.bind_eq_bind, Option.bind_some]
  simp only [Sha2.State.words, Sha2.State.map, Fips180.compress, List.zipWith, hf.fits.and_mask,
    BitVec.ofNat_add, BitVec.ofNat_toNat, BitVec.setWidth_eq, BitVec.add_comm]
  rfl

end Member

/-! ## RIPEMD-160 -/

/-- The Boolean functions in the order of the left line. -/
def mixes : List (ℕ → ℕ → ℕ → ℕ) := [
  fun x y z => x ^^^ y ^^^ z,
  fun x y z => (x &&& y) ||| ((x ^^^ word32.mask) &&& z),
  fun x y z => (x ||| (y ^^^ word32.mask)) ^^^ z,
  fun x y z => (x &&& z) ||| (y &&& (z ^^^ word32.mask)),
  fun x y z => x ^^^ (y ||| (z ^^^ word32.mask))]

/-- A line: the place of the function of a round, the constants of the rounds, and the message words and
the rotations of the steps. -/
structure Line where
  place : ℕ → ℕ
  constants : List ℕ
  words : List ℕ
  rotations : List ℕ

def left : Line where
  place r := r
  constants := Ripemd160.leftConstants.map UInt32.toNat
  words := Ripemd160.leftWords.flatten
  rotations := Ripemd160.leftRotations.flatten.map UInt32.toNat

def right : Line where
  place r := 4 - r
  constants := Ripemd160.rightConstants.map UInt32.toNat
  words := Ripemd160.rightWords.flatten
  rotations := Ripemd160.rightRotations.flatten.map UInt32.toNat

namespace Line

/-- Step `j` of a line over the words of a block. -/
def step (l : Line) (x : List ℕ) (v : Chain ℕ) (j : ℕ) : Option (Chain ℕ) := do
  let r := j >>> 4
  let f ← mixes[l.place r]?
  let t := (v.a + f v.b v.c v.d + (← x[← l.words[j]?]?) + (← l.constants[r]?)) &&& word32.mask
  let t := (word32.rotl t (← l.rotations[j]?) + v.e) &&& word32.mask
  return ⟨v.e, t, v.b, word32.rotl v.c 10, v.d⟩

end Line

/-- Both lines, step by step. -/
def lines (x : List ℕ) (h : Chain ℕ) : Option (Chain ℕ × Chain ℕ) :=
  (List.range 80).foldlM (fun p j => do return (← left.step x p.1 j, ← right.step x p.2 j)) (h, h)

/-- The chaining words after one more block. -/
def compressLines (state : List ℕ) (block : Bytes) : Option (List ℕ) := do
  let x ← unpack .little 4 block
  let h ← Chain.ofWords? state
  let (l, r) ← lines x h
  return [
    (h.b + l.c + r.d) &&& word32.mask,
    (h.c + l.d + r.e) &&& word32.mask,
    (h.d + l.e + r.a) &&& word32.mask,
    (h.e + l.a + r.b) &&& word32.mask,
    (h.a + l.b + r.c) &&& word32.mask]

/-- The numbers are those of the published steps. -/
structure Line.Masks (l : Line) (p : PublishedRipemd.Line) : Prop where
  mix_eq : ∀ j < 80, ∃ f, mixes[l.place (j >>> 4)]? = some f ∧
    ∀ x y z : BitVec 32, f x.toNat y.toNat z.toNat = (p.mix j x y z).toNat
  constant_eq : ∀ j < 80, l.constants[j >>> 4]? = some (p.constant j).toNat
  word_eq : ∀ j < 80, l.words[j]? = some (p.word j)
  word_lt : ∀ j < 80, p.word j < 16
  rotation_eq : ∀ j < 80, l.rotations[j]? = some (p.rotation j)
  rotation_lt : ∀ j < 80, p.rotation j < 32

theorem exists_mixes {r : ℕ} (hr : r < 5) : ∃ f, mixes[r]? = some f ∧
    ∀ x y z : BitVec 32, f x.toNat y.toNat z.toNat = (PublishedRipemd.mix r x y z).toNat := by
  interval_cases r <;>
    refine ⟨_, rfl, fun x y z => ?_⟩ <;>
    simp only [PublishedRipemd.mix, Width.word32_fits.xor_mask, ← BitVec.toNat_and,
      ← BitVec.toNat_or, ← BitVec.toNat_xor]

theorem masks_of_tabulates {l : Line} {p : PublishedRipemd.Line} {constants : List UInt32}
    {words : List (List ℕ)} {rotations : List (List UInt32)}
    (h : PublishedRipemd.Tabulates p constants words rotations)
    (hplace : ∀ j < 80, p.mix j = PublishedRipemd.mix (l.place (j >>> 4)))
    (hlt : ∀ j < 80, l.place (j >>> 4) < 5) (hconstants : l.constants = constants.map UInt32.toNat)
    (hwords : l.words = words.flatten)
    (hrotations : l.rotations = rotations.flatten.map UInt32.toNat) : l.Masks p where
  mix_eq j hj := by
    rw [hplace j hj]
    exact exists_mixes (hlt j hj)
  constant_eq j hj := by
    have hnumbers : constants.map UInt32.toNat =
        (constants.map UInt32.toBitVec).map BitVec.toNat := by
      rw [List.map_map]
      rfl
    rw [hconstants, hnumbers, Nat.shiftRight_eq_div_pow, List.getElem?_map]
    exact congrArg (Option.map BitVec.toNat) (h.constant_eq j hj)
  word_eq j hj := by
    rw [hwords, h.words_eq, PublishedRipemd.flatten_rows, getElem?_map_range hj]
  word_lt := h.word_lt
  rotation_eq j hj := by
    rw [hrotations, List.map_flatten, h.rotations_eq, PublishedRipemd.flatten_rows,
      getElem?_map_range hj]
  rotation_lt := h.rotation_lt

theorem masks_left : left.Masks PublishedRipemd.left :=
  masks_of_tabulates PublishedRipemd.tabulates_left
    (fun j _ => by rw [Nat.shiftRight_eq_div_pow]; rfl) (by decide) rfl rfl rfl

theorem masks_right : right.Masks PublishedRipemd.right :=
  masks_of_tabulates PublishedRipemd.tabulates_right
    (fun j hj => by
      have hplace : (79 - j) / 16 = 4 - j >>> 4 := by omega
      exact congrArg PublishedRipemd.mix hplace)
    (by decide) rfl rfl rfl

theorem Line.Masks.step_toNat {l : Line} {p : PublishedRipemd.Line} (h : l.Masks p) (block : Bytes)
    {j : ℕ} (hj : j < 80) (v : Chain (BitVec 32)) :
    l.step ((List.range 16).map fun i => (PublishedRipemd.blockWord block i).toNat)
        (v.map BitVec.toNat) j =
      some ((PublishedRipemd.step (p.mix j) v (PublishedRipemd.blockWord block (p.word j))
        (p.constant j) (p.rotation j)).map BitVec.toNat) := by
  have hw := Width.word32_fits
  obtain ⟨f, hf, hmix⟩ := h.mix_eq j hj
  simp only [Line.step, hf, h.constant_eq j hj, h.word_eq j hj, h.rotation_eq j hj,
    getElem?_map_range (h.word_lt j hj), Option.bind_eq_bind, Option.bind_some, Option.pure_def]
  simp only [PublishedRipemd.step, Chain.map, hmix, hw.and_mask,
    hw.rotl_toNat _ (h.rotation_lt j hj), hw.rotl_toNat _ (show 10 < 32 by decide),
    BitVec.ofNat_add, BitVec.ofNat_toNat, BitVec.setWidth_eq]

theorem lines_toNat (block : Bytes) (h : Chain (BitVec 32)) :
    lines ((List.range 16).map fun i => (PublishedRipemd.blockWord block i).toNat)
        (h.map BitVec.toNat) =
      some ((PublishedRipemd.left.run h block 80).map BitVec.toNat,
        (PublishedRipemd.right.run h block 80).map BitVec.toNat) := by
  refine foldlM_eq_some List.length_range
    (fun j => ((PublishedRipemd.left.run h block j).map BitVec.toNat,
      (PublishedRipemd.right.run h block j).map BitVec.toNat)) fun j hj => ?_
  rw [List.length_range] at hj
  rw [List.getElem_range, masks_left.step_toNat block hj, masks_right.step_toNat block hj]
  rfl

/-- The words of a block as they are published, as numbers. -/
theorem unpack_little {block : Bytes} (hblock : block.length = 64) :
    unpack .little 4 block =
      some ((List.range 16).map fun i => (PublishedRipemd.blockWord block i).toNat) := by
  rw [unpack_eq .little hblock]
  rfl

/-- **On the numbers of words the masked lines are the published ones.** -/
theorem compressLines_toNat {block : Bytes} (hblock : block.length = 64) (h : Chain (BitVec 32)) :
    compressLines (h.map BitVec.toNat).words block =
      some ((PublishedRipemd.compress h block).map BitVec.toNat).words := by
  have hw := Width.word32_fits
  have hstate : Chain.ofWords? (h.map BitVec.toNat).words = some (h.map BitVec.toNat) := rfl
  simp only [compressLines, unpack_little hblock, hstate, lines_toNat, Option.bind_eq_bind,
    Option.bind_some]
  simp only [Chain.words, Chain.map, PublishedRipemd.compress, hw.and_mask, BitVec.ofNat_add,
    BitVec.ofNat_toNat, BitVec.setWidth_eq]
  rfl

end Masked

end Airgap.Digest
