import Airgap.Proofs.Curve.Sec1
import Airgap.Proofs.KeyTree.Serialization

/-!
# Which keys are written and which bytes are read

* `exists_serialize_iff`, `exists_readBack_iff`: a key is written if its child number has 32 bits,
  and read back if it looks like a master key where it stands at depth zero.
* `readBack_of_ofFields`: the same for the fields of a key, with what happens otherwise.
* `Parts.Readable`: the bytes that are read as a key; `exists_deserialize_iff`.
* `parse_outcome`: a text is read as a key, or it is refused in one of two ways.
-/

namespace Airgap.KeyTree

open Curve (isOnCurve fieldPrime)

namespace ExtendedKey

variable {k : ExtendedKey} {data : Bytes}

/-! ## Keys that are written -/

theorem length_of_serialize (h : k.serialize = .ok data) : data.length = serializedSize := by
  obtain ⟨number, -, -, rfl⟩ := serialize_eq_ok_iff.mp h
  exact Parts.length_bytes _

theorem exists_serialize_iff :
    (∃ data, k.serialize = .ok data) ↔ 0 ≤ k.childNumber ∧ k.childNumber < numberLimit := by
  constructor
  · rintro ⟨data, h⟩
    obtain ⟨number, hlt, hnumber, -⟩ := serialize_eq_ok_iff.mp h
    have hlt : number < numberLimit := hlt
    omega
  · rintro ⟨h0, hlt⟩
    have hlt : k.childNumber.toNat < Bytes.capacity 4 := by
      rw [show Bytes.capacity 4 = numberLimit from rfl]
      omega
    exact ⟨_, serialize_eq_ok_iff.mpr ⟨_, hlt, by omega, rfl⟩⟩

theorem serialize_numberNegative (h : k.childNumber < 0) :
    k.serialize = .error .numberNegative := by
  rw [serialize, fixedBytes, if_pos h, error_bind]

theorem serialize_numberTooBig (h : numberLimit ≤ k.childNumber) :
    k.serialize = .error .numberTooBig := by
  have hge : ¬k.childNumber < (Bytes.capacity 4 : ℕ) := by
    rw [show Bytes.capacity 4 = numberLimit from rfl]
    omega
  rw [serialize, fixedBytes, if_neg (by omega), if_neg hge, error_bind]

/-! ## Keys that are read back -/

theorem placed_iff : Placed k ↔ (0 ≤ k.childNumber ∧ k.childNumber < numberLimit) ∧
    (k.depth = 0 → k.parentFingerprint = zeroFingerprint ∧ k.childNumber = 0) :=
  ⟨fun ⟨h0, hlt, hroot⟩ => ⟨⟨h0, hlt⟩, hroot⟩, fun ⟨⟨h0, hlt⟩, hroot⟩ => ⟨h0, hlt, hroot⟩⟩

theorem exists_readBack_iff :
    (∃ data, k.serialize = .ok data ∧ deserialize data = .ok k) ↔ Placed k := by
  constructor
  · rintro ⟨data, -, h⟩
    exact (of_deserialize h).1
  · intro hk
    obtain ⟨data, h, -⟩ := hk.serialize
    exact ⟨data, h, deserialize_eq_ok_iff.mpr ⟨hk, h⟩⟩

/-- The bytes of a key at depth zero that does not look like a master key are refused. -/
theorem deserialize_masterFields (h : k.serialize = .ok data) (hdepth : k.depth = 0)
    (hne : k.parentFingerprint ≠ zeroFingerprint ∨ k.childNumber ≠ 0) :
    deserialize data = .error .masterFields := by
  obtain ⟨number, hlt, hnumber, rfl⟩ := serialize_eq_ok_iff.mp h
  have hversion : Bytes.toNat (k.parts number).version = k.network.version k.isPrivate :=
    Bytes.toNat_ofNat_of_lt k.version_lt
  have hroot : (k.parts number).depth.toNat = 0 := k.toNat_depth.trans hdepth
  have hfields : (k.parts number).parentFingerprint ≠ zeroFingerprint ∨
      Bytes.toNat (k.parts number).number ≠ 0 := by
    rw [show Bytes.toNat (k.parts number).number = number from Bytes.toNat_ofNat_of_lt hlt]
    exact hne.imp_right fun hne => by omega
  rw [deserialize_bytes, hversion, Network.ofVersion?_version]
  exact if_pos ⟨hroot, hfields⟩

/-- **The key of given fields** is written in 78 bytes exactly if its child number has 32 bits, and
is read back from them exactly if at depth zero it has no parent and no child number. Any other child
number cannot be written, and the bytes of any other key at depth zero are refused. -/
theorem readBack_of_ofFields {kind : KeyKind} {key chainCode fingerprint : Bytes} {depth number : ℤ}
    {network : Network} (h : ofFields kind key chainCode depth fingerprint number network = .ok k) :
    ((∃ data, k.serialize = .ok data ∧ data.length = 78) ↔ 0 ≤ number ∧ number < 2 ^ 32) ∧
    (number < 0 → k.serialize = .error .numberNegative) ∧
    (2 ^ 32 ≤ number → k.serialize = .error .numberTooBig) ∧
    ((∃ data, k.serialize = .ok data ∧ deserialize data = .ok k) ↔
      (0 ≤ number ∧ number < 2 ^ 32) ∧
        (depth = 0 → fingerprint = zeroFingerprint ∧ number = 0)) ∧
    ∀ data, k.serialize = .ok data → depth = 0 → (fingerprint ≠ zeroFingerprint ∨ number ≠ 0) →
      deserialize data = .error .masterFields := by
  obtain ⟨-, -, -, rfl, rfl, rfl, -⟩ := ofFields_eq_ok_iff.mp h
  refine ⟨⟨?_, ?_⟩, serialize_numberNegative, serialize_numberTooBig, ?_, ?_⟩
  · rintro ⟨data, hdata, -⟩
    exact exists_serialize_iff.mp ⟨data, hdata⟩
  · intro hnumber
    obtain ⟨data, hdata⟩ := exists_serialize_iff.mpr hnumber
    exact ⟨data, hdata, length_of_serialize hdata⟩
  · rw [exists_readBack_iff, placed_iff, Int.natCast_eq_zero]
    rfl
  · intro data hdata hdepth hne
    exact deserialize_masterFields hdata (Int.natCast_eq_zero.mp hdepth) hne

/-- The private key one can be placed at any depth, below any parent and with any child number. -/
theorem exists_ofFields_one (depth : ℕ) (fingerprint : Bytes) (number : ℤ)
    (hdepth : depth ≤ maxDepth) (hlen : fingerprint.length = 4) : ∃ k, ofFields .secret
      (Bytes.ofNat 32 1) (List.replicate 32 0) depth fingerprint number .mainnet = .ok k :=
  exists_ofFields number .mainnet (by decide) hdepth hlen (by decide)

/-- A key at depth zero with a parent can be made, and its bytes are not read back. -/
theorem readBack_of_ofFields_root : ∃ k,
    ofFields .secret (Bytes.ofNat 32 1) (List.replicate 32 0) 0 [1, 2, 3, 4] 0 .mainnet = .ok k ∧
    (∃ data, k.serialize = .ok data ∧ data.length = 78 ∧
      deserialize data = .error .masterFields) ∧
    ¬∃ data, k.serialize = .ok data ∧ deserialize data = .ok k := by
  obtain ⟨k, hk⟩ := exists_ofFields_one 0 [1, 2, 3, 4] 0 (by decide) rfl
  obtain ⟨hwritten, -, -, hread, hrefused⟩ := readBack_of_ofFields hk
  obtain ⟨data, hdata, hlen⟩ := hwritten.mpr (by decide)
  refine ⟨k, hk, ⟨data, hdata, hlen, hrefused data hdata rfl (.inl (by decide))⟩, fun h => ?_⟩
  exact absurd ((hread.mp h).2 rfl).1 (by decide)

/-- Two keys that are not written and read back: the first has a child number of 33 bits, the second
stands at depth zero below a parent. -/
theorem exists_not_readBack :
    (∃ k, ofFields .secret (Bytes.ofNat 32 1) (List.replicate 32 0) 1 zeroFingerprint (2 ^ 32)
        .mainnet = .ok k ∧ k.serialize = .error .numberTooBig ∧
      Error.numberTooBig.kind = .overflow) ∧
    ∃ k data, ofFields .secret (Bytes.ofNat 32 1) (List.replicate 32 0) 0 [1, 2, 3, 4] 0
        .mainnet = .ok k ∧ k.serialize = .ok data ∧ deserialize data = .error .masterFields := by
  constructor
  · obtain ⟨k, hk⟩ := exists_ofFields_one 1 zeroFingerprint (2 ^ 32) (by decide) rfl
    have hnumber := (ofFields_eq_ok_iff.mp hk).2.2.2.2.2.1
    exact ⟨k, hk, serialize_numberTooBig (by rw [hnumber]; decide), rfl⟩
  · obtain ⟨k, hk⟩ := exists_ofFields_one 0 [1, 2, 3, 4] 0 (by decide) rfl
    obtain ⟨-, -, -, hdepth, hparent, hnumber, -⟩ := ofFields_eq_ok_iff.mp hk
    obtain ⟨data, hdata⟩ := exists_serialize_iff.mpr (by rw [hnumber]; decide)
    refine ⟨k, data, hk, hdata, deserialize_masterFields hdata (by omega) (.inl ?_)⟩
    rw [hparent]
    decide

end ExtendedKey

/-! ## Bytes that are read -/

theorem checkKey_secret_iff {key : Bytes} : checkKey .secret key = .ok () ↔
    ∃ scalar, 0 < scalar ∧ scalar < Curve.order ∧ key = Bytes.ofNat 32 scalar := by
  rw [checkKey_secret, Curve.isPrivateScalar_natCast]
  constructor
  · rintro ⟨hlen, h0, hlt⟩
    have hlen : key.length = 32 := hlen
    exact ⟨_, h0, hlt, by rw [← hlen, Bytes.ofNat_toNat]⟩
  · rintro ⟨scalar, h0, hlt, rfl⟩
    have hcap : scalar < Bytes.capacity 32 := hlt.trans (by decide)
    rw [Bytes.toNat_ofNat_of_lt hcap]
    exact ⟨Bytes.length_ofNat _ _, h0, hlt⟩

theorem checkKey_publicOnly_iff {key : Bytes} : checkKey .publicOnly key = .ok () ↔
    ∃ (marker : UInt8) (a : Curve.Affine), (marker = 2 ∨ marker = 3) ∧ a.x < fieldPrime ∧
      isOnCurve (some a) = true ∧ key = marker :: Bytes.ofNat 32 a.x.toNat := by
  rw [checkKey_publicOnly]
  constructor
  · rintro ⟨⟨hlen, -⟩, h⟩
    obtain ⟨marker, abscissa, rfl⟩ := List.exists_cons_of_length_eq_add_one hlen
    have hlen : abscissa.length = 32 := Nat.succ.inj hlen
    obtain ⟨hmarker, a, hx, hcurve⟩ := (Curve.exists_decompress_compressed_iff hlen).mp h
    obtain ⟨⟨-, hlt⟩, -, -⟩ := Curve.of_isOnCurve hcurve
    refine ⟨marker, a, hmarker, hlt, hcurve, ?_⟩
    rw [hx, Int.toNat_natCast, ← hlen, Bytes.ofNat_toNat]
  · rintro ⟨marker, a, hmarker, hlt, hcurve, rfl⟩
    obtain ⟨⟨h0, -⟩, -, -⟩ := Curve.of_isOnCurve hcurve
    have hcap : fieldPrime < Bytes.capacity 32 := Curve.fieldPrime_lt_capacity
    have hlen : (Bytes.ofNat 32 a.x.toNat).length = 32 := Bytes.length_ofNat _ _
    have hnum : Bytes.toNat (Bytes.ofNat 32 a.x.toNat) = a.x.toNat :=
      Bytes.toNat_ofNat_of_lt (by omega)
    refine ⟨⟨by rw [List.length_cons, hlen]; rfl, ?_⟩,
      (Curve.exists_decompress_compressed_iff hlen).mpr ⟨hmarker, a, by omega, hcurve⟩⟩
    rw [List.head?_cons]
    exact hmarker.imp (congrArg some) (congrArg some)

theorem kind_of_checkKey_eq_error {kind : KeyKind} {key : Bytes} {e : Error}
    (h : checkKey kind key = .error e) : e.kind = .parameter := by
  cases kind with
  | secret =>
    rw [checkKey] at h
    split at h
    · cases h
    · obtain rfl := Except.error.inj h
      rfl
  | publicOnly =>
    rw [checkKey] at h
    split at h
    · cases hread : Curve.decompress key with
      | ok a => rw [hread] at h; cases h
      | error e' =>
        rw [hread] at h
        obtain rfl := Except.error.inj h
        exact Curve.kind_of_decompress_eq_error hread
    · obtain rfl := Except.error.inj h
      rfl

namespace Parts

variable (p : Parts)

/-- The key data are a private scalar. -/
def HoldsScalar : Prop :=
  ∃ scalar, 0 < scalar ∧ scalar < Curve.order ∧ p.data = 0 :: Bytes.ofNat 32 scalar

/-- The key data are a marker and the abscissa of a point. -/
def HoldsPoint : Prop :=
  ∃ (marker : UInt8) (a : Curve.Affine), (marker = 2 ∨ marker = 3) ∧ a.x < fieldPrime ∧
    isOnCurve (some a) = true ∧ p.data = marker :: Bytes.ofNat 32 a.x.toNat

/-- What the parts of a key must be: one of the four versions with key data of its kind, and at
depth zero neither a parent nor a child number. -/
structure Readable : Prop where
  data : ∃ network : Network,
    (Bytes.toNat p.version = network.privateVersion ∧ p.HoldsScalar) ∨
      (Bytes.toNat p.version = network.publicVersion ∧ p.HoldsPoint)
  root : p.depth = 0 → p.parentFingerprint = [0, 0, 0, 0] ∧ p.number = [0, 0, 0, 0]

theorem root_iff : (p.depth = 0 → p.parentFingerprint = [0, 0, 0, 0] ∧ p.number = [0, 0, 0, 0]) ↔
    ¬(p.depth.toNat = 0 ∧
      (p.parentFingerprint ≠ zeroFingerprint ∨ Bytes.toNat p.number ≠ 0)) := by
  have hdepth : p.depth = 0 ↔ p.depth.toNat = 0 := UInt8.toNat_inj.symm
  have hnumber : p.number = [0, 0, 0, 0] ↔ Bytes.toNat p.number = 0 := by
    constructor
    · intro h
      rw [h]
      rfl
    · intro h
      rw [← Bytes.ofNat_toNat p.number, h, p.length_number]
      rfl
  rw [hdepth, hnumber]
  simp only [zeroFingerprint, not_and, not_or, not_not]

/-- **Bytes are read as a key** exactly if their parts are readable. -/
theorem exists_deserialize_iff : (∃ k, ExtendedKey.deserialize p.bytes = .ok k) ↔ p.Readable := by
  constructor
  · rintro ⟨k, h⟩
    have hok := k.key_ok
    rw [ExtendedKey.deserialize_bytes] at h
    split at h
    · exact nomatch h
    · rename_i network isPrivate hversion
      have hversion := Network.eq_version hversion
      split_ifs at h with hroot hsecret hzero hpublic
      all_goals
        obtain ⟨hkind, hkey, -⟩ := ExtendedKey.ofFields_eq_ok_iff.mp h
        rw [hkind, hkey] at hok
        refine ⟨⟨network, ?_⟩, p.root_iff.mpr hroot⟩
      · -- a private key
        obtain ⟨scalar, h0, hlt, htail⟩ := checkKey_secret_iff.mp hok
        rw [hsecret] at hversion
        obtain ⟨b, bs, hdata⟩ := List.exists_cons_of_length_eq_add_one p.length_data
        rw [hdata, List.headD_cons, not_not] at hzero
        rw [hdata, List.tail_cons] at htail
        exact .inl ⟨Int.ofNat_inj.mp hversion, scalar, h0, hlt, by rw [hdata, hzero, htail]⟩
      · -- a public key
        rw [Bool.eq_false_of_not_eq_true hsecret] at hversion
        exact .inr ⟨Int.ofNat_inj.mp hversion, checkKey_publicOnly_iff.mp hok⟩
  · rintro ⟨⟨network, h⟩, hroot⟩
    have hdepth : p.depth.toNat ≤ maxDepth := Nat.le_of_lt_succ p.depth.toNat_lt
    have hroot := p.root_iff.mp hroot
    rw [ExtendedKey.deserialize_bytes]
    rcases h with ⟨hversion, scalar, h0, hlt, hdata⟩ | ⟨hversion, marker, a, hmarker, hx, ha, hdata⟩
    · have hversion : Network.ofVersion? (Bytes.toNat p.version) = some (network, true) := by
        rw [hversion]
        exact Network.ofVersion?_version network true
      have hok := checkKey_secret_iff.mpr ⟨scalar, h0, hlt, rfl⟩
      simp only [hversion, if_neg hroot, hdata, List.headD_cons, List.tail_cons, ne_eq,
        not_true_eq_false, if_false, if_true]
      exact ExtendedKey.exists_ofFields _ network p.length_chainCode hdepth
        p.length_parentFingerprint hok
    · have hversion : Network.ofVersion? (Bytes.toNat p.version) = some (network, false) := by
        rw [hversion]
        exact Network.ofVersion?_version network false
      have hok := checkKey_publicOnly_iff.mpr ⟨marker, a, hmarker, hx, ha, hdata⟩
      have hhead : ¬(p.data.headD 0 ≠ 2 ∧ p.data.headD 0 ≠ 3) := by
        rw [hdata, List.headD_cons]
        tauto
      simp only [hversion, if_neg hroot, if_neg hhead, if_neg Bool.false_ne_true]
      exact ExtendedKey.exists_ofFields _ network p.length_chainCode hdepth
        p.length_parentFingerprint hok

end Parts

namespace ExtendedKey

/-! ## What is refused -/

theorem kind_of_ofFields_eq_error {kind : KeyKind} {key chainCode fingerprint : Bytes}
    {depth number : ℤ} {network : Network} {e : Error}
    (h : ofFields kind key chainCode depth fingerprint number network = .error e) :
    e.kind = .parameter := by
  unfold ofFields at h
  split at h
  · split at h
    · split at h
      · split at h
        · cases h
        · rename_i e' hkey
          obtain rfl := Except.error.inj h
          exact kind_of_checkKey_eq_error hkey
      · obtain rfl := Except.error.inj h
        rfl
    · obtain rfl := Except.error.inj h
      rfl
  · obtain rfl := Except.error.inj h
    rfl

theorem kind_of_deserialize_eq_error {data : Bytes} {e : Error}
    (h : deserialize data = .error e) : e.kind = .parameter := by
  by_cases hlen : data.length = serializedSize
  · obtain ⟨p, rfl⟩ := exists_parts hlen
    rw [deserialize_bytes] at h
    split at h
    · obtain rfl := Except.error.inj h
      rfl
    · split_ifs at h
      · obtain rfl := Except.error.inj h
        rfl
      · obtain rfl := Except.error.inj h
        rfl
      · exact kind_of_ofFields_eq_error h
      · obtain rfl := Except.error.inj h
        rfl
      · exact kind_of_ofFields_eq_error h
  · rw [deserialize, if_pos hlen] at h
    obtain rfl := Except.error.inj h
    rfl

theorem parse_eq_error_iff {text : String} {e : Error} : parse text = .error e ↔
    Checksum.decode text = .error e ∨
      ∃ data, Checksum.decode text = .ok data ∧ deserialize data = .error e := by
  rw [parse, bind_eq_error]

theorem kind_of_parse_eq_error {text : String} {e : Error} (h : parse text = .error e) :
    e.kind = .parameter ∨ e.kind = .checksum := by
  rcases parse_eq_error_iff.mp h with h | ⟨data, -, h⟩
  · exact (Checksum.kind_of_decode_eq_error h).imp_right fun he => by rw [he]; rfl
  · exact .inl (kind_of_deserialize_eq_error h)

/-- Only a wrong checksum is reported as a mismatch. -/
theorem exists_parse_mismatch_iff {text : String} :
    (∃ e, parse text = .error e ∧ e.kind = .checksum) ↔
      Checksum.decode text = .error .checksumMismatch := by
  constructor
  · rintro ⟨e, h, hkind⟩
    rcases parse_eq_error_iff.mp h with h | ⟨data, -, h⟩
    · rcases Checksum.kind_of_decode_eq_error h with hparameter | rfl
      · rw [hparameter] at hkind
        exact nomatch hkind
      · exact h
    · rw [kind_of_deserialize_eq_error h] at hkind
      exact nomatch hkind
  · intro h
    exact ⟨.checksumMismatch, parse_eq_error_iff.mpr (.inl h), rfl⟩

theorem exists_parse_iff {text : String} : (∃ k, parse text = .ok k) ↔ ∃ p : Parts, p.Readable ∧
    Checksum.Base58.decode (Text.strip text.toList) = .ok (Checksum.append p.bytes) := by
  constructor
  · rintro ⟨k, h⟩
    obtain ⟨data, hread, h⟩ := parse_eq_ok_iff.mp h
    obtain ⟨p, rfl⟩ := exists_parts (length_of_serialize (of_deserialize h).2)
    exact ⟨p, p.exists_deserialize_iff.mp ⟨k, h⟩, (Checksum.decode_eq_ok_iff.mp hread).2⟩
  · rintro ⟨p, hp, hread⟩
    obtain ⟨k, h⟩ := p.exists_deserialize_iff.mpr hp
    have hne : p.bytes ≠ [] := by
      rw [← List.length_pos_iff, p.length_bytes]
      decide
    exact ⟨k, parse_eq_ok_iff.mpr ⟨p.bytes, Checksum.decode_eq_ok_iff.mpr ⟨hne, hread⟩, h⟩⟩

/-- **A text is read as a key** exactly if it is the base-58 form, with blanks at its ends, of
readable parts and their checksum. Any other text is refused, with a mismatch if the checksum behind
some bytes is wrong and as a wrong parameter otherwise. -/
theorem parse_outcome (text : String) :
    ((∃ k, parse text = .ok k) ↔ ∃ p : Parts, p.Readable ∧
      Checksum.Base58.decode (Text.strip text.toList) =
        .ok (p.bytes ++ (Digest.doubleSha256 p.bytes).take 4)) ∧
    ((∃ e, parse text = .error e ∧ e.kind = .checksum) ↔ ∃ payload check : Bytes,
      Checksum.Base58.decode (Text.strip text.toList) = .ok (payload ++ check) ∧ payload ≠ [] ∧
        check.length = 4 ∧ check ≠ (Digest.doubleSha256 payload).take 4) ∧
    ((∃ k, parse text = .ok k) ∨
      ∃ e, parse text = .error e ∧ (e.kind = .parameter ∨ e.kind = .checksum)) := by
  refine ⟨exists_parse_iff,
    exists_parse_mismatch_iff.trans Checksum.decode_eq_checksumMismatch_iff, ?_⟩
  cases h : parse text with
  | ok k => exact .inl ⟨k, rfl⟩
  | error e => exact .inr ⟨e, rfl, kind_of_parse_eq_error h⟩

end ExtendedKey

end Airgap.KeyTree
