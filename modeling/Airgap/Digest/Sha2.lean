import Airgap.Digest.Construction

/-!
# SHA-256 and SHA-512 (FIPS 180-4)

One compression function over the words of a `Sha2.Variant`: 32-bit words and 64 rounds for SHA-256,
64-bit words and 80 rounds for SHA-512.

* `Sha2.schedule`: the sixteen words of a block, continued by the message-schedule recurrence.
* `Sha2.compress`: the rounds over the schedule, added to the state before.
* `sha256`, `sha512`: the two constructions.
-/

namespace Airgap.Digest

namespace Sha2

/-- The words of a SHA-2 function and the functions of one word that it uses. -/
class Variant (W : Type) extends Add W, AndOp W, XorOp W, Complement W where
  /-- Bytes in a word. -/
  size : Nat
  toNat : W → Nat
  ofNat : Nat → W
  /-- The two functions of the rounds and the two of the message schedule. -/
  bigSigma0 : W → W
  bigSigma1 : W → W
  smallSigma0 : W → W
  smallSigma1 : W → W
  /-- One constant a round. -/
  constants : List W

/-- The eight working variables. -/
structure State (W : Type) where
  a : W
  b : W
  c : W
  d : W
  e : W
  f : W
  g : W
  h : W
  deriving DecidableEq, Repr

variable {W : Type} [Variant W]

/-- The word of a big-endian byte string. -/
@[inline] def wordOf (bs : Bytes) : W := Variant.ofNat (Bytes.toNat bs)

/-- The sixteen big-endian words of a block. -/
@[specialize] def blockWords (block : Bytes) : List W :=
  (Bytes.blocks (Variant.size W) 16 block).map wordOf

/-- The schedule with one more word, by the recurrence
`σ₁(w[t-2]) + w[t-7] + σ₀(w[t-15]) + w[t-16]`. -/
@[specialize] def expand (w : Array W) : Array W :=
  let t := w.size
  let zero : W := Variant.ofNat 0
  w.push (w.getD (t - 16) zero + Variant.smallSigma0 (w.getD (t - 15) zero) +
    w.getD (t - 7) zero + Variant.smallSigma1 (w.getD (t - 2) zero))

/-- The message schedule of a block: a word for each round. -/
@[specialize] def schedule (block : Bytes) : Array W :=
  Nat.repeat expand ((Variant.constants (W := W)).length - 16) (blockWords block).toArray

/-- `f` where `e` has a one, `g` where it has a zero. -/
@[inline] def choose (e f g : W) : W := (e &&& f) ^^^ (~~~e &&& g)

/-- The bit that most of the three have. -/
@[inline] def majority (a b c : W) : W := (a &&& b) ^^^ (a &&& c) ^^^ (b &&& c)

/-- One round with its constant and its word of the schedule. -/
@[specialize] def round (s : State W) (k w : W) : State W :=
  let t1 := s.h + Variant.bigSigma1 s.e + choose s.e s.f s.g + k + w
  let t2 := Variant.bigSigma0 s.a + majority s.a s.b s.c
  ⟨t1 + t2, s.a, s.b, s.c, s.d + t1, s.e, s.f, s.g⟩

/-- Word-wise sum of two states. -/
@[specialize] def State.add (s v : State W) : State W :=
  ⟨s.a + v.a, s.b + v.b, s.c + v.c, s.d + v.d, s.e + v.e, s.f + v.f, s.g + v.g, s.h + v.h⟩

/-- The compression function. -/
@[specialize] def compress (s : State W) (block : Bytes) : State W :=
  s.add (((Variant.constants (W := W)).zip (schedule block).toList).foldl
    (fun v p => round v p.1 p.2) s)

/-- The big-endian bytes of a word. -/
@[inline] def wordBytes (w : W) : Bytes := Bytes.ofNat (Variant.size W) (Variant.toNat w)

/-- The eight words of a state, big-endian. -/
@[specialize] def output (s : State W) : Bytes :=
  [s.a, s.b, s.c, s.d, s.e, s.f, s.g, s.h].flatMap wordBytes

theorem length_output (s : State W) : (output s).length = 8 * Variant.size W := by
  simp only [output, wordBytes, List.flatMap_cons, List.flatMap_nil, List.length_append,
    Bytes.length_ofNat, List.length_nil]
  omega

end Sha2

/-! ## SHA-256 -/

/-- Right rotation of a 32-bit word by `0 < n < 32`. -/
@[inline] def rotr32 (x : UInt32) (n : UInt32) : UInt32 := (x >>> n) ||| (x <<< (32 - n))

namespace Sha256

/-- The first 32 bits of the fractional parts of the cube roots of the first 64 primes. -/
def constants : List UInt32 := [
  0x428A2F98, 0x71374491, 0xB5C0FBCF, 0xE9B5DBA5, 0x3956C25B, 0x59F111F1,
  0x923F82A4, 0xAB1C5ED5, 0xD807AA98, 0x12835B01, 0x243185BE, 0x550C7DC3,
  0x72BE5D74, 0x80DEB1FE, 0x9BDC06A7, 0xC19BF174, 0xE49B69C1, 0xEFBE4786,
  0x0FC19DC6, 0x240CA1CC, 0x2DE92C6F, 0x4A7484AA, 0x5CB0A9DC, 0x76F988DA,
  0x983E5152, 0xA831C66D, 0xB00327C8, 0xBF597FC7, 0xC6E00BF3, 0xD5A79147,
  0x06CA6351, 0x14292967, 0x27B70A85, 0x2E1B2138, 0x4D2C6DFC, 0x53380D13,
  0x650A7354, 0x766A0ABB, 0x81C2C92E, 0x92722C85, 0xA2BFE8A1, 0xA81A664B,
  0xC24B8B70, 0xC76C51A3, 0xD192E819, 0xD6990624, 0xF40E3585, 0x106AA070,
  0x19A4C116, 0x1E376C08, 0x2748774C, 0x34B0BCB5, 0x391C0CB3, 0x4ED8AA4A,
  0x5B9CCA4F, 0x682E6FF3, 0x748F82EE, 0x78A5636F, 0x84C87814, 0x8CC70208,
  0x90BEFFFA, 0xA4506CEB, 0xBEF9A3F7, 0xC67178F2]

/-- The first 32 bits of the fractional parts of the square roots of the first eight primes. -/
def initial : Sha2.State UInt32 :=
  ⟨0x6A09E667, 0xBB67AE85, 0x3C6EF372, 0xA54FF53A, 0x510E527F, 0x9B05688C, 0x1F83D9AB, 0x5BE0CD19⟩

instance : Sha2.Variant UInt32 where
  size := 4
  toNat := UInt32.toNat
  ofNat := UInt32.ofNat
  bigSigma0 x := rotr32 x 2 ^^^ rotr32 x 13 ^^^ rotr32 x 22
  bigSigma1 x := rotr32 x 6 ^^^ rotr32 x 11 ^^^ rotr32 x 25
  smallSigma0 x := rotr32 x 7 ^^^ rotr32 x 18 ^^^ (x >>> 3)
  smallSigma1 x := rotr32 x 17 ^^^ rotr32 x 19 ^^^ (x >>> 10)
  constants := constants

/-- The compression function of SHA-256. -/
def compress (s : Sha2.State UInt32) (block : Bytes) : Sha2.State UInt32 := Sha2.compress s block

end Sha256

/-- SHA-256: blocks of sixteen 4-byte words, a length field of two, and 32-byte digests. -/
def sha256 : Construction where
  State := Sha2.State UInt32
  initial := Sha256.initial
  compress := Sha256.compress
  output := Sha2.output
  blockSize := 16 * 4
  lengthSize := 2 * 4
  order := .big
  digestSize := 32
  lengthSize_lt := by decide
  length_output := Sha2.length_output

/-! ## SHA-512 -/

/-- Right rotation of a 64-bit word by `0 < n < 64`. -/
@[inline] def rotr64 (x : UInt64) (n : UInt64) : UInt64 := (x >>> n) ||| (x <<< (64 - n))

namespace Sha512

/-- The first 64 bits of the fractional parts of the cube roots of the first 80 primes. -/
def constants : List UInt64 := [
  0x428A2F98D728AE22, 0x7137449123EF65CD, 0xB5C0FBCFEC4D3B2F, 0xE9B5DBA58189DBBC,
  0x3956C25BF348B538, 0x59F111F1B605D019, 0x923F82A4AF194F9B, 0xAB1C5ED5DA6D8118,
  0xD807AA98A3030242, 0x12835B0145706FBE, 0x243185BE4EE4B28C, 0x550C7DC3D5FFB4E2,
  0x72BE5D74F27B896F, 0x80DEB1FE3B1696B1, 0x9BDC06A725C71235, 0xC19BF174CF692694,
  0xE49B69C19EF14AD2, 0xEFBE4786384F25E3, 0x0FC19DC68B8CD5B5, 0x240CA1CC77AC9C65,
  0x2DE92C6F592B0275, 0x4A7484AA6EA6E483, 0x5CB0A9DCBD41FBD4, 0x76F988DA831153B5,
  0x983E5152EE66DFAB, 0xA831C66D2DB43210, 0xB00327C898FB213F, 0xBF597FC7BEEF0EE4,
  0xC6E00BF33DA88FC2, 0xD5A79147930AA725, 0x06CA6351E003826F, 0x142929670A0E6E70,
  0x27B70A8546D22FFC, 0x2E1B21385C26C926, 0x4D2C6DFC5AC42AED, 0x53380D139D95B3DF,
  0x650A73548BAF63DE, 0x766A0ABB3C77B2A8, 0x81C2C92E47EDAEE6, 0x92722C851482353B,
  0xA2BFE8A14CF10364, 0xA81A664BBC423001, 0xC24B8B70D0F89791, 0xC76C51A30654BE30,
  0xD192E819D6EF5218, 0xD69906245565A910, 0xF40E35855771202A, 0x106AA07032BBD1B8,
  0x19A4C116B8D2D0C8, 0x1E376C085141AB53, 0x2748774CDF8EEB99, 0x34B0BCB5E19B48A8,
  0x391C0CB3C5C95A63, 0x4ED8AA4AE3418ACB, 0x5B9CCA4F7763E373, 0x682E6FF3D6B2B8A3,
  0x748F82EE5DEFB2FC, 0x78A5636F43172F60, 0x84C87814A1F0AB72, 0x8CC702081A6439EC,
  0x90BEFFFA23631E28, 0xA4506CEBDE82BDE9, 0xBEF9A3F7B2C67915, 0xC67178F2E372532B,
  0xCA273ECEEA26619C, 0xD186B8C721C0C207, 0xEADA7DD6CDE0EB1E, 0xF57D4F7FEE6ED178,
  0x06F067AA72176FBA, 0x0A637DC5A2C898A6, 0x113F9804BEF90DAE, 0x1B710B35131C471B,
  0x28DB77F523047D84, 0x32CAAB7B40C72493, 0x3C9EBE0A15C9BEBC, 0x431D67C49C100D4C,
  0x4CC5D4BECB3E42B6, 0x597F299CFC657E2A, 0x5FCB6FAB3AD6FAEC, 0x6C44198C4A475817]

/-- The first 64 bits of the fractional parts of the square roots of the first eight primes. -/
def initial : Sha2.State UInt64 :=
  ⟨0x6A09E667F3BCC908, 0xBB67AE8584CAA73B, 0x3C6EF372FE94F82B, 0xA54FF53A5F1D36F1,
    0x510E527FADE682D1, 0x9B05688C2B3E6C1F, 0x1F83D9ABFB41BD6B, 0x5BE0CD19137E2179⟩

instance : Sha2.Variant UInt64 where
  size := 8
  toNat := UInt64.toNat
  ofNat := UInt64.ofNat
  bigSigma0 x := rotr64 x 28 ^^^ rotr64 x 34 ^^^ rotr64 x 39
  bigSigma1 x := rotr64 x 14 ^^^ rotr64 x 18 ^^^ rotr64 x 41
  smallSigma0 x := rotr64 x 1 ^^^ rotr64 x 8 ^^^ (x >>> 7)
  smallSigma1 x := rotr64 x 19 ^^^ rotr64 x 61 ^^^ (x >>> 6)
  constants := constants

/-- The compression function of SHA-512. -/
def compress (s : Sha2.State UInt64) (block : Bytes) : Sha2.State UInt64 := Sha2.compress s block

end Sha512

/-- SHA-512: blocks of sixteen 8-byte words, a length field of two, and 64-byte digests. -/
def sha512 : Construction where
  State := Sha2.State UInt64
  initial := Sha512.initial
  compress := Sha512.compress
  output := Sha2.output
  blockSize := 16 * 8
  lengthSize := 2 * 8
  order := .big
  digestSize := 64
  lengthSize_lt := by decide
  length_output := Sha2.length_output

end Airgap.Digest
