import Airgap.Entropy.Compress
import Airgap.Proofs.Digest.Pbkdf2
import Airgap.Proofs.Entropy.Pool
import Airgap.Proofs.Text.Surrogate

/-!
# Compressed entropy

* `fitted`, `byteBits_fitted`: bytes that keep their first bits and have zeros behind them.
* `compress_eq`: what `compress` answers, by the blocks of RFC 8018; `compress_tooLong`, that it refuses
  what needs a block whose number does not fit into four bytes, so more than 512 * (2 ^ 32 - 1) bits.
* `Salt.toBytes_eq_ok_iff`: the salts that can be hashed.
* `compress_prefix`: the bits of a shorter answer are those of a longer one, up to the longest; with
  `compress_refuses` for the first target beyond it, and for a salt that cannot be hashed.
-/

namespace Airgap.Entropy

open Digest (Rfc8018.blocks Rfc8018.length_blocks Rfc8018.take_blocks le_blockCount pbkdf2_eq
  pbkdf2_tooLong)

/-! ## The last byte -/

/-- Bytes that `n` bits take, with the spare bits of the last one cleared. -/
def fitted (n : ℕ) (bs : Bytes) : Bytes :=
  if n % 8 = 0 then bs else bs.modify (bs.length - 1) (· &&& 0xFF <<< UInt8.ofNat (8 - n % 8))

section Fitted

variable {bs : Bytes} {n : ℕ}

theorem length_fitted : (fitted n bs).length = bs.length := by
  rw [fitted]
  split
  · rfl
  · exact List.length_modify _ _ _

theorem modify_last (front : Bytes) (last : UInt8) (f : UInt8 → UInt8) :
    (front ++ [last]).modify ((front ++ [last]).length - 1) f = front ++ [f last] := by
  rw [List.length_append, List.length_singleton, Nat.add_sub_cancel]
  induction front with
  | nil => rfl
  | cons x front ih => exact congrArg (x :: ·) ih

theorem byteBits_fitted (hlength : bs.length = (n + 7) / 8) :
    byteBits (fitted n bs) = (byteBits bs).take n ++ List.replicate (spare n) false := by
  rw [fitted]
  by_cases hr : n % 8 = 0
  · have hall : (byteBits bs).length ≤ n := by
      rw [length_byteBits, hlength]
      omega
    have hspare : spare n = 0 := by rw [spare, hr]
    rw [if_pos hr, hspare, List.take_of_length_le hall, List.replicate_zero, List.append_nil]
  · rcases List.eq_nil_or_concat bs with rfl | ⟨front, last, rfl⟩
    · rw [List.length_nil] at hlength
      omega
    · rw [List.concat_eq_append] at hlength ⊢
      have hfront : 8 * front.length + n % 8 = n := by
        rw [List.length_append, List.length_singleton] at hlength
        omega
      rw [if_neg hr, modify_last, Pool.byteBits_mask hfront hr]

end Fitted

/-! ## The answer -/

section Salts

variable {salt : Salt}

/-- **The salts that can be hashed** are bytes, and texts without surrogates. -/
theorem Salt.toBytes_eq_ok_iff :
    (∃ s, salt.toBytes = .ok s) ↔ ∀ t, salt = .text t → ∀ c, .surrogate c ∉ t := by
  cases salt with
  | bytes bs => exact ⟨fun _ _ h => (nomatch h), fun _ => ⟨bs, rfl⟩⟩
  | text t =>
    have hencode : (∃ s, (Salt.text t).toBytes = .ok s) ↔ ∃ s, t.encode = .ok s := by
      rw [toBytes]
      cases t.encode with
      | ok s => exact ⟨fun _ => ⟨s, rfl⟩, fun _ => ⟨s, rfl⟩⟩
      | error fault => exact ⟨fun ⟨_, h⟩ => (nomatch h), fun ⟨_, h⟩ => (nomatch h)⟩
    rw [hencode, RawText.encode_eq_ok_iff]
    exact ⟨fun h t' ht => Salt.text.inj ht ▸ h, fun h => h t rfl⟩

theorem Salt.kind_of_toBytes_eq_error {e : Error} (h : salt.toBytes = .error e) :
    e.kind = .encoding := by
  cases salt with
  | bytes bs => exact nomatch h
  | text t =>
    rw [toBytes] at h
    cases hencode : t.encode with
    | ok s => rw [hencode] at h; exact nomatch h
    | error fault =>
      rw [hencode] at h
      obtain rfl := Except.error.inj h
      rfl

end Salts

section Answer

variable (entropy : Bytes) {salt : Salt} {s : Bytes} {iterations : ℤ} {t : ℕ}

theorem length_byteBits_blocks (s : Bytes) (iterations n : ℕ) :
    (byteBits (Rfc8018.blocks .sha512 entropy s iterations n)).length = 512 * n := by
  have hblocks : (Rfc8018.blocks .sha512 entropy s iterations n).length = n * 64 :=
    Rfc8018.length_blocks iterations n
  rw [length_byteBits, hblocks]
  omega

variable (hiterations : 1 ≤ iterations) (ht : 1 ≤ t)

include hiterations ht

theorem compress_of_salt_error {e : Error} (he : salt.toBytes = .error e) :
    compress entropy t iterations salt = .error e := by
  rw [compress, if_neg (by omega), if_neg (by omega), he]
  rfl

variable (hsalt : salt.toBytes = .ok s)

include hsalt

theorem compress_of_derived {bs : Bytes}
    (hbs : Digest.pbkdf2 .sha512 entropy s iterations ((t + 7) / 8 : ℕ) = .ok bs) :
    compress entropy t iterations salt = .ok (fitted t bs) := by
  have hcount : ((t : ℤ) + 7) / 8 = ((t + 7) / 8 : ℕ) := by omega
  have hmod : (t : ℤ) % 8 = (t % 8 : ℕ) := by omega
  rw [compress, if_neg (by omega), if_neg (by omega), hcount, hsalt, ok_bind, hbs, hmod, fitted]
  by_cases hr : t % 8 = 0
  · rw [if_pos hr, hr]
    rfl
  · rw [if_neg hr]
    simp only [ok_bind, Int.natCast_eq_zero, hr, if_false, Int.toNat_natCast]
    rfl

/-- **What `compress` answers**: the first bits of any number of blocks that is enough, filled up with
zeros to whole bytes. -/
theorem compress_eq (hmax : t ≤ 512 * (2 ^ 32 - 1)) :
    ∃ out, compress entropy t iterations salt = .ok out ∧ out.length = (t + 7) / 8 ∧
      ∀ n, t ≤ 512 * n → byteBits out =
        (byteBits (Rfc8018.blocks .sha512 entropy s iterations.toNat n)).take t ++
          List.replicate (spare t) false := by
  have hsize : Digest.Algorithm.sha512.digestSize = 64 := rfl
  have hderived := pbkdf2_eq .sha512 entropy s hiterations
    (show 1 ≤ (((t + 7) / 8 : ℕ) : ℤ) by omega) (by rw [hsize]; omega)
  rw [Int.toNat_natCast, hsize] at hderived
  have henough : (t + 7) / 8 ≤ ((t + 7) / 8 + 64 - 1) / 64 * 64 := le_blockCount (by decide)
  generalize ((t + 7) / 8 + 64 - 1) / 64 = m at hderived henough
  have hlength : ((Rfc8018.blocks .sha512 entropy s iterations.toNat m).take
      ((t + 7) / 8)).length = (t + 7) / 8 := by
    rw [List.length_take, Rfc8018.length_blocks, hsize, Nat.min_eq_left henough]
  refine ⟨_, compress_of_derived entropy hiterations ht hsalt hderived,
    length_fitted.trans hlength, fun n hn => ?_⟩
  have hn' : (t + 7) / 8 ≤ n * 64 := by omega
  rw [byteBits_fitted hlength, Rfc8018.take_blocks henough hn', byteBits_take, List.take_take,
    Nat.min_eq_left (by omega)]

omit ht in
/-- More bits than the blocks have whose numbers fit are refused. -/
theorem compress_tooLong (hmax : 512 * (2 ^ 32 - 1) < t) :
    compress entropy t iterations salt = .error .numberTooBig := by
  have hcount : ((t : ℤ) + 7) / 8 = ((t + 7) / 8 : ℕ) := by omega
  have hsize : Digest.Algorithm.sha512.digestSize = 64 := rfl
  have hrefused : Digest.pbkdf2 .sha512 entropy s iterations ((t + 7) / 8 : ℕ) =
      .error .numberTooBig := pbkdf2_tooLong .sha512 entropy s hiterations (by rw [hsize]; omega)
  rw [compress, if_neg (by omega), if_neg (by omega), hcount, hsalt, ok_bind, hrefused, error_bind]

end Answer

/-- **The bits of a shorter answer are those of a longer one**, and of the stream that PBKDF2 derives: of
any number of blocks that is enough. What is left of the last byte is zero. There are answers up to the
bits of all blocks whose numbers fit into four bytes, and for all salts that can be hashed; what is longer
is refused for the number of a block, and other salts for their encoding. -/
theorem compress_prefix (entropy : Bytes) (salt : Salt) {iterations : ℤ} (hiterations : 1 ≤ iterations)
    {t t' : ℕ} (ht : 1 ≤ t) (hle : t ≤ t') :
    (∀ s, salt.toBytes = .ok s → t' ≤ 512 * (2 ^ 32 - 1) →
      ∃ out out', compress entropy t iterations salt = .ok out ∧
        compress entropy t' iterations salt = .ok out' ∧
        out.length = (t + 7) / 8 ∧
        (byteBits out).take t = (byteBits out').take t ∧
        (∀ n, t ≤ 512 * n → (byteBits out).take t =
          (byteBits (Rfc8018.blocks .sha512 entropy s iterations.toNat n)).take t) ∧
        (byteBits out).drop t = List.replicate (8 * out.length - t) false) ∧
    (∀ s, salt.toBytes = .ok s → 512 * (2 ^ 32 - 1) < t' →
      compress entropy t' iterations salt = .error .numberTooBig) ∧
    (∀ e, salt.toBytes = .error e →
      compress entropy t' iterations salt = .error e ∧ e.kind = .encoding) ∧
    ((∃ s, salt.toBytes = .ok s) ↔ ∀ text, salt = .text text → ∀ c, .surrogate c ∉ text) := by
  have ht' : 1 ≤ t' := Nat.le_trans ht hle
  refine ⟨fun s hsalt hmax => ?_, fun s hsalt => compress_tooLong entropy hiterations hsalt,
    fun e he => ⟨compress_of_salt_error entropy hiterations ht' he, Salt.kind_of_toBytes_eq_error he⟩,
    Salt.toBytes_eq_ok_iff⟩
  obtain ⟨out, hout, hlength, hbits⟩ :=
    compress_eq entropy hiterations ht hsalt (Nat.le_trans hle hmax)
  obtain ⟨out', hout', -, hbits'⟩ := compress_eq entropy hiterations ht' hsalt hmax
  have hlong {k n : ℕ} (hk : k ≤ 512 * n) :
      ((byteBits (Rfc8018.blocks .sha512 entropy s iterations.toNat n)).take k).length = k := by
    rw [List.length_take, length_byteBits_blocks, Nat.min_eq_left hk]
  have hfront (n : ℕ) (hn : t ≤ 512 * n) : (byteBits out).take t =
      (byteBits (Rfc8018.blocks .sha512 entropy s iterations.toNat n)).take t := by
    rw [hbits n hn, List.take_left' (hlong hn)]
  -- one number of blocks that is enough for both
  have hn : t ≤ 512 * t' := by omega
  have hn' : t' ≤ 512 * t' := by omega
  refine ⟨out, out', hout, hout', hlength, ?_, hfront, ?_⟩
  · have hfits := hle.trans (Nat.le_of_eq (hlong hn').symm)
    rw [hfront t' hn, hbits' t' hn', List.take_append_of_le_length hfits, List.take_take,
      Nat.min_eq_left hle]
  · have hspare : 8 * out.length - t = spare t := by
      rw [hlength, ← add_spare, Nat.add_sub_cancel_left]
    rw [hbits t' hn, List.drop_left' (hlong hn), hspare]

/-- Nine bits, and one bit of the second block; a target that is too long; a salt with a surrogate. -/
theorem compress_prefix_thrice :
    (∃ out out', compress [7] 9 2 (.bytes [1]) = .ok out ∧
      compress [7] 513 2 (.bytes [1]) = .ok out' ∧ out.length = 2 ∧
      (byteBits out).take 9 = (byteBits out').take 9 ∧
      (byteBits out).drop 9 = List.replicate 7 false) ∧
    compress [7] (2 ^ 42) 2 (.bytes [1]) = .error .numberTooBig ∧
    ∃ e, compress [7] 9 2 (.text [.char 'a', .surrogate 5]) = .error e ∧ e.kind = .encoding := by
  have hrounds : (1 : ℤ) ≤ 2 := by decide
  have hbits : 1 ≤ 9 := by decide
  refine ⟨?_, ?_, ?_⟩
  · obtain ⟨hanswers, -⟩ :=
      compress_prefix [7] (.bytes [1]) hrounds hbits (show 9 ≤ 513 by decide)
    obtain ⟨out, out', hout, hout', hlength, hsame, -, hrest⟩ := hanswers [1] rfl (by decide)
    exact ⟨out, out', hout, hout', hlength, hsame, by rw [hrest, hlength]⟩
  · obtain ⟨-, hrefused, -⟩ :=
      compress_prefix [7] (.bytes [1]) hrounds hbits (show 9 ≤ 2 ^ 42 by decide)
    exact hrefused [1] rfl (by decide)
  · obtain ⟨-, -, hrefused, -⟩ :=
      compress_prefix [7] (.text [.char 'a', .surrogate 5]) hrounds hbits (Nat.le_refl 9)
    exact ⟨_, hrefused (.utf8 (.surrogate 5 1)) rfl⟩

/-- The first target that is too long, and a salt that cannot be hashed. -/
theorem compress_refuses :
    (∀ out, compress [] 2199023255041 1 (.bytes []) ≠ .ok out) ∧
      compress [] 2199023255041 1 (.bytes []) = .error .numberTooBig ∧
      compress [] 9 1 (.text [.surrogate 0]) = .error (.utf8 (.surrogate 0 0)) := by
  have hlong : compress [] (2199023255041 : ℕ) 1 (.bytes []) = .error .numberTooBig :=
    compress_tooLong [] (by decide) rfl (by decide)
  have hsalt : compress [] (9 : ℕ) 1 (.text [.surrogate 0]) = .error (.utf8 (.surrogate 0 0)) :=
    compress_of_salt_error [] (by decide) (by decide) rfl
  exact ⟨fun out h => (nomatch hlong.symm.trans h), hlong, hsalt⟩

end Airgap.Entropy
