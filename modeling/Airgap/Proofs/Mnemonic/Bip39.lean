import Airgap.Mnemonic.Bip39
import Airgap.Proofs.Bytes
import Airgap.Proofs.Mnemonic.Places

/-!
# BIP39 mnemonics and entropy

A mnemonic of `3 * w` words holds `4 * w` bytes of entropy and `w` bits of their checksum, for a width
`w` from four to eight.

* `packed`: the number that the words write, with `encode_eq`.
* `decodeWords_eq_ok_iff`: words decode exactly to the entropy that they are written for.
* `encode_decode_inverse`: encoding and decoding are inverse to each other.
-/

namespace Airgap.Mnemonic.Bip39

variable {l : WordList} {w : ℕ}

/-! ## Sizes -/

theorem mem_entropyBits_iff {size : ℕ} :
    8 * size ∈ entropyBits ↔ ∃ w, 4 ≤ w ∧ w ≤ 8 ∧ size = 4 * w := by
  simp only [entropyBits, List.mem_cons, List.not_mem_nil, or_false]
  constructor
  · intro h
    exact ⟨size / 4, by omega, by omega, by omega⟩
  · rintro ⟨w, hlow, hhigh, rfl⟩
    omega

theorem mem_wordCounts_iff {count : ℕ} :
    count ∈ wordCounts ↔ ∃ w, 4 ≤ w ∧ w ≤ 8 ∧ count = 3 * w := by
  simp only [wordCounts, List.mem_cons, List.not_mem_nil, or_false]
  constructor
  · intro h
    exact ⟨count / 3, by omega, by omega, by omega⟩
  · rintro ⟨w, hlow, hhigh, rfl⟩
    omega

/-! ## The number of a phrase -/

/-- The entropy with `w` bits of its checksum behind it. -/
def packed (w : ℕ) (e : Bytes) : ℕ := Bytes.toNat e * 2 ^ w + checksum e w

theorem checksum_lt (hw : w ≤ 8) (e : Bytes) : checksum e w < 2 ^ w := by
  have hbyte : ((Digest.sha256.hash e).headD 0).toNat < 2 ^ 8 := UInt8.toNat_lt _
  rw [checksum, Nat.shiftRight_eq_div_pow]
  apply Nat.div_lt_of_lt_mul
  rwa [← Nat.pow_add, Nat.sub_add_cancel hw]

theorem packed_div (hw : w ≤ 8) (e : Bytes) : packed w e / 2 ^ w = Bytes.toNat e := by
  rw [packed, Nat.mul_comm, Nat.mul_add_div (Nat.two_pow_pos w),
    Nat.div_eq_of_lt (checksum_lt hw e), Nat.add_zero]

theorem packed_mod (hw : w ≤ 8) (e : Bytes) : packed w e % 2 ^ w = checksum e w := by
  rw [packed, Nat.mul_add_mod_self_right, Nat.mod_eq_of_lt (checksum_lt hw e)]

theorem capacity_mul (w : ℕ) : Bytes.capacity (4 * w) * 2 ^ w = phrases (3 * w) := by
  rw [Bytes.capacity_eq, phrases_eq, show 256 = 2 ^ 8 from rfl, ← Nat.pow_mul, ← Nat.pow_add]
  congr 1
  omega

theorem packed_lt (hw : w ≤ 8) {e : Bytes} (he : e.length = 4 * w) :
    packed w e < phrases (3 * w) := by
  have hlt := Bytes.toNat_lt e
  rw [he] at hlt
  rw [← capacity_mul, packed]
  calc Bytes.toNat e * 2 ^ w + checksum e w
      < Bytes.toNat e * 2 ^ w + 2 ^ w := Nat.add_lt_add_left (checksum_lt hw e) _
    _ = (Bytes.toNat e + 1) * 2 ^ w := (Nat.succ_mul _ _).symm
    _ ≤ Bytes.capacity (4 * w) * 2 ^ w := Nat.mul_le_mul_right _ hlt

/-! ## Words -/

theorem encode_eq (l : WordList) (hlow : 4 ≤ w) (hhigh : w ≤ 8) {e : Bytes} (he : e.length = 4 * w) :
    encode l e = .ok (ofWords (l.wordsOf (3 * w) (packed w e)) .bip39) := by
  have hbits : 8 * e.length ∈ entropyBits := mem_entropyBits_iff.mpr ⟨w, hlow, hhigh, he⟩
  have hwidth : 8 * e.length / 32 = w := by omega
  have hcount : (8 * e.length + w) / WordList.bitsPerWord = 3 * w := by
    rw [WordList.bitsPerWord]
    omega
  unfold encode
  simp only [if_pos hbits, hwidth, hcount, Nat.shiftLeft_eq]
  rfl

/-- Words and the entropy that they are written for. -/
theorem exists_encode_iff (hl : l.Spelled) {e : Bytes} {ws : List String} :
    (∃ m, encode l e = .ok m ∧ m.words = ws) ↔
      ∃ w, 4 ≤ w ∧ w ≤ 8 ∧ e.length = 4 * w ∧ ws = l.wordsOf (3 * w) (packed w e) := by
  constructor
  · rintro ⟨m, hm, rfl⟩
    by_cases hbits : 8 * e.length ∈ entropyBits
    · obtain ⟨w, hlow, hhigh, he⟩ := mem_entropyBits_iff.mp hbits
      rw [encode_eq l hlow hhigh he] at hm
      obtain rfl := Except.ok.inj hm
      exact ⟨w, hlow, hhigh, he, hl.words_ofWords _ _ _⟩
    · unfold encode at hm
      simp only [if_neg hbits] at hm
      exact nomatch hm
  · rintro ⟨w, hlow, hhigh, he, rfl⟩
    exact ⟨_, encode_eq l hlow hhigh he, hl.words_ofWords _ _ _⟩

theorem decodeNumber_eq (w n : ℕ) : decodeNumber (3 * w) n =
    if n % 2 ^ w = checksum (Bytes.ofNat (4 * w) (n / 2 ^ w)) w then
      .ok (Bytes.ofNat (4 * w) (n / 2 ^ w))
    else .error .bip39Checksum := by
  have hwidth : 3 * w * WordList.bitsPerWord / 33 = w := by
    rw [WordList.bitsPerWord]
    omega
  have hsize : (3 * w * WordList.bitsPerWord - w) / 8 = 4 * w := by
    rw [WordList.bitsPerWord]
    omega
  rw [decodeNumber]
  simp only [hwidth, hsize, Nat.shiftRight_eq_div_pow, Nat.one_shiftLeft]

theorem decodeWords_eq (l : WordList) (hlow : 4 ≤ w) (hhigh : w ≤ 8) {ws : List String}
    (hws : ws.length = 3 * w) : decodeWords l ws = l.indices ws >>= fun is =>
      if numeral is % 2 ^ w = checksum (Bytes.ofNat (4 * w) (numeral is / 2 ^ w)) w then
        .ok (Bytes.ofNat (4 * w) (numeral is / 2 ^ w))
      else .error .bip39Checksum := by
  have hcount : ws.length ∈ wordCounts := mem_wordCounts_iff.mpr ⟨w, hlow, hhigh, hws⟩
  rw [decodeWords, if_pos hcount]
  simp only [hws, decodeNumber_eq]

/-- Bytes that pass the check are packed into the number that they were taken from. -/
theorem packed_ofNat {n : ℕ} (hn : n < phrases (3 * w))
    (hsum : n % 2 ^ w = checksum (Bytes.ofNat (4 * w) (n / 2 ^ w)) w) :
    packed w (Bytes.ofNat (4 * w) (n / 2 ^ w)) = n := by
  have hlt : n / 2 ^ w < Bytes.capacity (4 * w) := by
    apply Nat.div_lt_of_lt_mul
    rwa [Nat.mul_comm, capacity_mul]
  rw [packed, ← hsum, Bytes.toNat_ofNat_of_lt hlt, Nat.div_add_mod']

/-- **Words decode to the entropy that they are written for**, and to no other. -/
theorem decodeWords_eq_ok_iff (hl : l.Spelled) {ws : List String}
    (hws : ws.map normalizeWord = ws) {e : Bytes} : decodeWords l ws = .ok e ↔
      ∃ w, 4 ≤ w ∧ w ≤ 8 ∧ e.length = 4 * w ∧ ws = l.wordsOf (3 * w) (packed w e) := by
  constructor
  · intro h
    by_cases hcount : ws.length ∈ wordCounts
    · obtain ⟨w, hlow, hhigh, hlength⟩ := mem_wordCounts_iff.mp hcount
      rw [decodeWords_eq l hlow hhigh hlength, bind_eq_ok] at h
      obtain ⟨is, his, h⟩ := h
      have hwords := WordList.eq_wordsOf hws his
      have hlt := WordList.numeral_lt_of_indices his
      rw [hlength] at hwords hlt
      split at h
      · rename_i hsum
        obtain rfl := Except.ok.inj h
        exact ⟨w, hlow, hhigh, Bytes.length_ofNat _ _, by rw [packed_ofNat hlt hsum, hwords]⟩
      · exact nomatch h
    · rw [decodeWords, if_neg hcount] at h
      exact nomatch h
  · rintro ⟨w, hlow, hhigh, he, rfl⟩
    rw [decodeWords_eq l hlow hhigh (l.length_wordsOf _ _), hl.indices_wordsOf, ok_bind,
      numeral_placesOf, Nat.mod_eq_of_lt (packed_lt hhigh he), packed_div hhigh, packed_mod hhigh,
      ← he, Bytes.ofNat_toNat, if_pos rfl]

/-! ## Inputs -/

theorem decode_eq_ok_iff {p : Input} {e : Bytes} :
    decode l p = .ok e ↔ ∃ c, p.mnemonic .bip39 = .ok c ∧ decodeWords l c.words = .ok e := by
  rw [decode, bind_eq_ok]

theorem decode_eq_ok_iff_encode (hl : l.Spelled) {p : Input} {e : Bytes} :
    decode l p = .ok e ↔
      ∃ c m, p.mnemonic .bip39 = .ok c ∧ encode l e = .ok m ∧ m.words = c.words := by
  simp only [decode_eq_ok_iff, decodeWords_eq_ok_iff hl (map_normalizeWord _),
    ← exists_encode_iff hl, exists_and_left]

/-- **Encoding and decoding are inverse to each other** over a list whose words have their spelling.
What is encoded decodes to itself; an input decodes exactly to the entropy whose words it stands for, so
exactly the words of some entropy are accepted, and entropy has only one sequence of words. -/
theorem encode_decode_inverse (l : WordList) (hl : l.Spelled) :
    (∀ e : Bytes, e.length ∈ [16, 20, 24, 28, 32] →
      ∃ m, encode l e = .ok m ∧ decode l (.ready m) = .ok e) ∧
    (∀ p e, decode l p = .ok e ↔
      ∃ c m, p.mnemonic .bip39 = .ok c ∧ encode l e = .ok m ∧ c.words = m.words) ∧
    (∀ p, accepts l p = true ↔
      ∃ c e m, p.mnemonic .bip39 = .ok c ∧ encode l e = .ok m ∧ c.words = m.words) ∧
    ∀ p q e c d, decode l p = .ok e → decode l q = .ok e → p.mnemonic .bip39 = .ok c →
      q.mnemonic .bip39 = .ok d → c.words = d.words := by
  have hdecode : ∀ p e, decode l p = .ok e ↔
      ∃ c m, p.mnemonic .bip39 = .ok c ∧ encode l e = .ok m ∧ c.words = m.words := by
    intro p e
    simp only [decode_eq_ok_iff_encode hl, eq_comm]
  refine ⟨fun e he => ?_, hdecode, fun p => ?_, fun p q e c d hp hq hc hd => ?_⟩
  · have hsize : ∃ w, 4 ≤ w ∧ w ≤ 8 ∧ e.length = 4 * w := by
      simp only [List.mem_cons, List.not_mem_nil, or_false] at he
      exact ⟨e.length / 4, by omega, by omega, by omega⟩
    obtain ⟨w, hlow, hhigh, he⟩ := hsize
    have hm := encode_eq l hlow hhigh he
    exact ⟨_, hm, (hdecode _ e).mpr ⟨_, _, mnemonic_ofWords _ _, hm, rfl⟩⟩
  · simp only [accepts, isOk_iff, hdecode]
    exact exists_comm
  · obtain ⟨c', m, hc', hm, hcm⟩ := (hdecode p e).mp hp
    obtain ⟨d', m', hd', hm', hdm⟩ := (hdecode q e).mp hq
    obtain rfl := Except.ok.inj (hc.symm.trans hc')
    obtain rfl := Except.ok.inj (hd.symm.trans hd')
    obtain rfl := Except.ok.inj (hm.symm.trans hm')
    rw [hcm, hdm]

theorem encode_decode_inverse_english : WordList.english.Spelled ∧
    ∃ m, encode .english (List.replicate 16 0) = .ok m ∧
      decode .english (.ready m) = .ok (List.replicate 16 0) ∧
      accepts .english (.ready m) = true := by
  obtain ⟨hencode, hdecode, haccepts, -⟩ :=
    encode_decode_inverse .english WordList.spelled_english
  obtain ⟨m, hm, hback⟩ := hencode (List.replicate 16 0) (by decide)
  obtain ⟨c, m', hc, hm', hwords⟩ := (hdecode _ _).mp hback
  exact ⟨WordList.spelled_english, m, hm, hback, (haccepts _).mpr ⟨c, _, m', hc, hm', hwords⟩⟩

end Airgap.Mnemonic.Bip39
