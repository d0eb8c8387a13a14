import Airgap.Proofs.Checksum.Base58
import Airgap.Proofs.KeyTree.Fields

/-!
# Serialized keys

* `Parts`: the parts of 78 bytes; `exists_parts` cuts any 78 bytes into them.
* `deserialize_eq_ok_iff`: a key is read from exactly the bytes that it writes, except that a key at
  depth zero must look like a master key.
* `Reachable.placed`: derivation keeps what makes a key writable and readable.
* `serialize_roundtrip`: bytes and texts of keys in both directions.
-/

namespace Airgap

theorem Network.eq_version {version : ℤ} {n : Network} {isPrivate : Bool}
    (h : ofVersion? version = some (n, isPrivate)) : version = n.version isPrivate := by
  unfold ofVersion? at h
  split_ifs at h with h1 h2 h3 h4
  all_goals obtain ⟨rfl, rfl⟩ := Prod.mk.inj (Option.some.inj h)
  · exact h1
  · exact h2
  · exact h3
  · exact h4

namespace KeyTree

/-! ## Layout -/

/-- The parts of a serialized key. -/
structure Parts where
  version : Bytes
  depth : UInt8
  parentFingerprint : Bytes
  number : Bytes
  chainCode : Bytes
  data : Bytes
  length_version : version.length = 4
  length_parentFingerprint : parentFingerprint.length = 4
  length_number : number.length = 4
  length_chainCode : chainCode.length = 32
  length_data : data.length = 33

namespace Parts

/-- The parts one behind the other. -/
def bytes (p : Parts) : Bytes :=
  p.version ++ p.depth :: p.parentFingerprint ++ p.number ++ p.chainCode ++ p.data

variable (p : Parts)

theorem length_bytes : p.bytes.length = serializedSize := by
  simp only [bytes, List.length_append, List.length_cons, p.length_version,
    p.length_parentFingerprint, p.length_number, p.length_chainCode, p.length_data]
  rfl

theorem drop_four : p.bytes.drop 4 =
    p.depth :: p.parentFingerprint ++ p.number ++ p.chainCode ++ p.data := by
  simp only [bytes, List.append_assoc]
  exact List.drop_left' p.length_version

theorem drop_five : p.bytes.drop 5 = p.parentFingerprint ++ (p.number ++ (p.chainCode ++ p.data)) := by
  rw [show 5 = 4 + 1 from rfl, ← List.drop_drop, drop_four]
  simp only [List.cons_append, List.drop_succ_cons, List.drop_zero, List.append_assoc]

theorem drop_nine : p.bytes.drop 9 = p.number ++ (p.chainCode ++ p.data) := by
  rw [show 9 = 5 + 4 from rfl, ← List.drop_drop, drop_five]
  exact List.drop_left' p.length_parentFingerprint

theorem drop_thirteen : p.bytes.drop 13 = p.chainCode ++ p.data := by
  rw [show 13 = 9 + 4 from rfl, ← List.drop_drop, drop_nine]
  exact List.drop_left' p.length_number

theorem drop_fortyFive : p.bytes.drop 45 = p.data := by
  rw [show 45 = 13 + 32 from rfl, ← List.drop_drop, drop_thirteen]
  exact List.drop_left' p.length_chainCode

end Parts

theorem exists_parts {data : Bytes} (h : data.length = serializedSize) :
    ∃ p : Parts, p.bytes = data := by
  have hlen : data.length = 78 := h
  have hdepth : (data.drop 4).headD 0 :: data.drop 5 = data.drop 4 := by
    rw [List.drop_eq_getElem_cons (by omega : 4 < data.length)]
    rfl
  refine ⟨⟨data.take 4, (data.drop 4).headD 0, (data.drop 5).take 4, (data.drop 9).take 4,
    (data.drop 13).take 32, data.drop 45, ?_, ?_, ?_, ?_, ?_⟩, ?_⟩
  · rw [List.length_take, hlen]
    rfl
  · rw [List.length_take, List.length_drop, hlen]
    rfl
  · rw [List.length_take, List.length_drop, hlen]
    rfl
  · rw [List.length_take, List.length_drop, hlen]
    rfl
  · rw [List.length_drop, hlen]
  rw [Parts.bytes]
  simp only [List.append_assoc, List.cons_append]
  rw [show data.drop 45 = (data.drop 13).drop 32 by rw [List.drop_drop], List.take_append_drop,
    show data.drop 13 = (data.drop 9).drop 4 by rw [List.drop_drop], List.take_append_drop,
    show data.drop 9 = (data.drop 5).drop 4 by rw [List.drop_drop], List.take_append_drop, hdepth,
    List.take_append_drop]

namespace ExtendedKey

variable {k : ExtendedKey}

/-! ## Keys and bytes -/

/-- The key data with the marker in front of a private scalar. -/
def keyData (k : ExtendedKey) : Bytes := if k.isPrivate then 0 :: k.key else k.key

theorem keyData_of_isPrivate (h : k.isPrivate = true) : k.keyData = 0 :: k.key := if_pos h

theorem keyData_of_not_isPrivate (h : k.isPrivate = false) : k.keyData = k.key := by
  rw [keyData, h]
  rfl

theorem length_keyData (k : ExtendedKey) : k.keyData.length = 33 := by
  have hok := k.key_ok
  cases h : k.isPrivate
  · rw [isPrivate_eq_false_iff.mp h] at hok
    rw [keyData_of_not_isPrivate h]
    exact (checkKey_publicOnly.mp hok).1.1
  · rw [isPrivate_iff.mp h] at hok
    rw [keyData_of_isPrivate h, List.length_cons, (checkKey_secret.mp hok).1]
    rfl

/-- The parts of a key with a child number. -/
def parts (k : ExtendedKey) (number : ℕ) : Parts :=
  ⟨Bytes.ofNat 4 k.version, UInt8.ofNat k.depth, k.parentFingerprint, Bytes.ofNat 4 number,
    k.chainCode, k.keyData, Bytes.length_ofNat _ _, k.length_parentFingerprint,
    Bytes.length_ofNat _ _, k.length_chainCode, length_keyData k⟩

theorem version_lt (k : ExtendedKey) : k.version < Bytes.capacity 4 := by
  rw [version, Network.version]
  cases k.network <;> cases k.isPrivate <;> decide

theorem toNat_depth (k : ExtendedKey) : (UInt8.ofNat k.depth).toNat = k.depth := by
  have hd : k.depth ≤ 255 := k.depth_le
  rw [UInt8.toNat_ofNat']
  omega

/-- A key is written exactly if its child number has 32 bits. -/
theorem serialize_eq_ok_iff {data : Bytes} : k.serialize = .ok data ↔
    ∃ number : ℕ, number < Bytes.capacity 4 ∧ k.childNumber = number ∧
      (k.parts number).bytes = data := by
  constructor
  · intro h
    rw [serialize, bind_eq_ok] at h
    obtain ⟨bs, hbs, h⟩ := h
    unfold fixedBytes at hbs
    split_ifs at hbs with hneg hlt
    obtain rfl := Except.ok.inj hbs
    refine ⟨k.childNumber.toNat, by omega, by omega, ?_⟩
    obtain rfl := Except.ok.inj h
    rfl
  · rintro ⟨number, hlt, hnumber, rfl⟩
    rw [serialize, hnumber, fixedBytes_natCast hlt]
    rfl

theorem deserialize_bytes (p : Parts) : deserialize p.bytes =
    match Network.ofVersion? (Bytes.toNat p.version) with
    | none => .error (.unknownVersion (Bytes.toNat p.version))
    | some (network, isPrivate) =>
      if p.depth.toNat = 0 ∧ (p.parentFingerprint ≠ zeroFingerprint ∨ Bytes.toNat p.number ≠ 0) then
        .error .masterFields
      else if isPrivate then
        if p.data.headD 0 ≠ 0 then .error .privateMarker
        else ofFields .secret p.data.tail p.chainCode p.depth.toNat p.parentFingerprint
          (Bytes.toNat p.number) network
      else if p.data.headD 0 ≠ 2 ∧ p.data.headD 0 ≠ 3 then .error .publicMarker
      else ofFields .publicOnly p.data p.chainCode p.depth.toNat p.parentFingerprint
        (Bytes.toNat p.number) network := by
  have htake : p.bytes.take 4 = p.version := by
    simp only [Parts.bytes, List.append_assoc]
    exact List.take_left' p.length_version
  rw [deserialize, if_neg (by simp [p.length_bytes]), htake, p.drop_four, p.drop_five, p.drop_nine,
    p.drop_thirteen, p.drop_fortyFive, List.take_left' p.length_parentFingerprint,
    List.take_left' p.length_number, List.take_left' p.length_chainCode]
  rfl

/-- What makes a key writable, and readable again: a child number of 32 bits, and at depth zero the
look of a master key. -/
structure Placed (k : ExtendedKey) : Prop where
  number_nonneg : 0 ≤ k.childNumber
  number_lt : k.childNumber < numberLimit
  root : k.depth = 0 → k.parentFingerprint = zeroFingerprint ∧ k.childNumber = 0

/-- A key with the fields of some parts is written as these. -/
theorem serialize_of_parts {p : Parts} (hversion : (Bytes.toNat p.version : ℤ) = k.version)
    (hdepth : (k.depth : ℤ) = p.depth.toNat) (hparent : k.parentFingerprint = p.parentFingerprint)
    (hnumber : k.childNumber = Bytes.toNat p.number) (hchain : k.chainCode = p.chainCode)
    (hdata : k.keyData = p.data) : k.serialize = .ok p.bytes := by
  have hlt : Bytes.toNat p.number < Bytes.capacity 4 := by
    rw [← p.length_number]
    exact Bytes.toNat_lt _
  refine serialize_eq_ok_iff.mpr ⟨_, hlt, hnumber, congrArg Parts.bytes ?_⟩
  have hbytes : Bytes.ofNat 4 (Bytes.toNat p.number) = p.number := by
    rw [← p.length_number, Bytes.ofNat_toNat]
  have hversion : Bytes.ofNat 4 k.version = p.version := by
    rw [← Int.ofNat_inj.mp hversion, ← p.length_version, Bytes.ofNat_toNat]
  have hdepth : UInt8.ofNat k.depth = p.depth := by
    rw [Int.ofNat_inj.mp hdepth, UInt8.ofNat_toNat]
  cases p
  simp only [parts, hversion, hdepth, hparent, hbytes, hchain, hdata]

theorem of_deserialize {data : Bytes} (h : deserialize data = .ok k) :
    Placed k ∧ k.serialize = .ok data := by
  have hlen : data.length = serializedSize := by
    by_contra hne
    rw [deserialize, if_pos hne] at h
    exact nomatch h
  obtain ⟨p, rfl⟩ := exists_parts hlen
  have hlt : Bytes.toNat p.number < numberLimit := by
    have hlt := Bytes.toNat_lt p.number
    rwa [p.length_number] at hlt
  rw [deserialize_bytes] at h
  split at h
  · exact nomatch h
  · rename_i network isPrivate hversion
    have hversion := Network.eq_version hversion
    split_ifs at h with hroot hsecret hzero hpublic
    all_goals
      obtain ⟨hkind, hkey, hchain, hdepth, hparent, hnumber, hnetwork⟩ := ofFields_eq_ok_iff.mp h
      refine ⟨⟨by omega, by omega, fun hd => ?_⟩,
        serialize_of_parts ?_ hdepth hparent hnumber hchain ?_⟩
      · have hd : p.depth.toNat = 0 := by omega
        simp only [hd, true_and, not_or, not_not] at hroot
        rw [hparent, hnumber, hroot.1, hroot.2]
        exact ⟨rfl, rfl⟩
    · -- a private key
      rw [hversion, version, isPrivate_iff.mpr hkind, hnetwork, hsecret]
    · rw [keyData_of_isPrivate (isPrivate_iff.mpr hkind), hkey]
      have hdata := p.length_data
      cases hp : p.data with
      | nil => rw [hp] at hdata; exact nomatch hdata
      | cons b bs =>
        rw [hp, List.headD_cons, not_not] at hzero
        rw [hzero, List.tail_cons]
    · -- a public key
      rw [hversion, version, isPrivate_eq_false_iff.mpr hkind, hnetwork]
      simp [hsecret]
    · rw [keyData_of_not_isPrivate (isPrivate_eq_false_iff.mpr hkind), hkey]

/-- **A key is read from the bytes that it writes**, and from no others. -/
theorem deserialize_eq_ok_iff {data : Bytes} :
    deserialize data = .ok k ↔ Placed k ∧ k.serialize = .ok data := by
  refine ⟨of_deserialize, fun ⟨hk, h⟩ => ?_⟩
  obtain ⟨number, hlt, hnumber, rfl⟩ := serialize_eq_ok_iff.mp h
  have htoNat : Bytes.toNat (k.parts number).number = number := Bytes.toNat_ofNat_of_lt hlt
  have hversion : Bytes.toNat (k.parts number).version = k.network.version k.isPrivate :=
    Bytes.toNat_ofNat_of_lt k.version_lt
  have hdepth : (k.parts number).depth.toNat = k.depth := k.toNat_depth
  have hroot : ¬(k.depth = 0 ∧
      ((k.parts number).parentFingerprint ≠ zeroFingerprint ∨ number ≠ 0)) := by
    rintro ⟨hd, hne⟩
    obtain ⟨hfp, hzero⟩ := hk.root hd
    rcases hne with hne | hne
    · exact hne hfp
    · omega
  have hok := k.key_ok
  rw [deserialize_bytes, hversion, Network.ofVersion?_version, hdepth, htoNat]
  simp only [if_neg hroot]
  cases hprivate : k.isPrivate
  · have hkind := isPrivate_eq_false_iff.mp hprivate
    have hdata : (k.parts number).data = k.key := keyData_of_not_isPrivate hprivate
    rw [hkind] at hok
    have hhead : ¬(k.key.headD 0 ≠ 2 ∧ k.key.headD 0 ≠ 3) := by
      obtain ⟨⟨-, hhead⟩, -⟩ := checkKey_publicOnly.mp hok
      rw [List.headD_eq_head?_getD]
      rcases hhead with hhead | hhead <;> simp [hhead]
    simp only [hdata, if_neg hhead, if_neg Bool.false_ne_true]
    exact ofFields_eq_ok_iff.mpr ⟨hkind, rfl, rfl, rfl, rfl, hnumber, rfl⟩
  · have hdata : (k.parts number).data = 0 :: k.key := keyData_of_isPrivate hprivate
    simp only [hdata, List.headD_cons, List.tail_cons, ne_eq, not_true_eq_false, if_false, if_true]
    exact ofFields_eq_ok_iff.mpr ⟨isPrivate_iff.mp hprivate, rfl, rfl, rfl, rfl, hnumber, rfl⟩

/-! ## Keys of a tree -/

/-- The keys that come from a seed, from bytes or from text by any sequence of derivations and
neutering. -/
inductive Reachable : ExtendedKey → Prop where
  | master {seed : Bytes} {network : Network} {k : ExtendedKey} :
      masterKey seed network = .ok k → Reachable k
  | deserialized {data : Bytes} {k : ExtendedKey} : deserialize data = .ok k → Reachable k
  | parsed {text : String} {k : ExtendedKey} : parse text = .ok k → Reachable k
  | child {k c : ExtendedKey} {step : ChildNumber} :
      Reachable k → k.deriveChild step = .ok c → Reachable c
  | index {k c : ExtendedKey} {index : ℤ} {hardened : Bool} :
      Reachable k → k.deriveIndex index hardened = .ok c → Reachable c
  | path {k d : ExtendedKey} {p : Path} : Reachable k → k.derivePath p = .ok d → Reachable d
  | neutered {k n : ExtendedKey} : Reachable k → k.neuter = .ok n → Reachable n

theorem placed_masterKey {seed : Bytes} {network : Network} (h : masterKey seed network = .ok k) :
    Placed k := by
  unfold masterKey at h
  simp only at h
  split_ifs at h
  obtain ⟨-, -, -, -, hparent, hnumber, -⟩ := ofFields_eq_ok_iff.mp h
  refine ⟨?_, ?_, fun _ => ⟨hparent, hnumber⟩⟩
  · rw [hnumber]
  · rw [hnumber]
    decide

theorem placed_deriveChild {c : ExtendedKey} {step : ChildNumber} (h : k.deriveChild step = .ok c) :
    Placed c := by
  obtain ⟨-, hdepth, hnumber, -⟩ := deriveChild_fields h
  have hlt := step.raw_lt
  exact ⟨by omega, by omega, fun hd => by omega⟩

theorem Placed.derivePath (hk : Placed k) {steps : List ChildNumber} {d : ExtendedKey}
    (h : k.derivePath ⟨steps⟩ = .ok d) : Placed d := by
  induction steps generalizing k with
  | nil =>
    obtain rfl := Except.ok.inj h
    exact hk
  | cons c cs ih =>
    rw [derivePath_cons, bind_eq_ok] at h
    obtain ⟨m, hm, h⟩ := h
    exact ih (placed_deriveChild hm) h

theorem Placed.neuter (hk : Placed k) {n : ExtendedKey} (h : k.neuter = .ok n) : Placed n := by
  rw [ExtendedKey.neuter] at h
  split_ifs at h
  · rw [bind_eq_ok] at h
    obtain ⟨pub, -, h⟩ := h
    obtain ⟨-, -, -, hdepth, hparent, hnumber, -⟩ := ofFields_eq_ok_iff.mp h
    obtain ⟨hnonneg, hlt, hroot⟩ := hk
    refine ⟨by omega, by omega, fun hd => ?_⟩
    rw [hparent, hnumber]
    exact hroot (by omega)
  · obtain rfl := Except.ok.inj h
    exact hk

theorem parse_eq_ok_iff {text : String} :
    parse text = .ok k ↔ ∃ data, Checksum.decode text = .ok data ∧ deserialize data = .ok k := by
  rw [parse, bind_eq_ok]

/-- Derivation and neutering keep the place of a key in order. -/
theorem Reachable.placed (h : Reachable k) : Placed k := by
  induction h with
  | master h => exact placed_masterKey h
  | deserialized h => exact (of_deserialize h).1
  | parsed h =>
    obtain ⟨data, -, h⟩ := parse_eq_ok_iff.mp h
    exact (of_deserialize h).1
  | child _ h _ => exact placed_deriveChild h
  | index _ h _ =>
    rw [deriveIndex, bind_eq_ok] at h
    obtain ⟨step, -, h⟩ := h
    exact placed_deriveChild h
  | path _ h ih => exact ih.derivePath h
  | neutered _ h ih => exact ih.neuter h

theorem Placed.serialize (hk : Placed k) :
    ∃ data, k.serialize = .ok data ∧ data.length = serializedSize := by
  obtain ⟨hnonneg, hlt, -⟩ := hk
  have hlt : k.childNumber.toNat < Bytes.capacity 4 := by
    rw [show Bytes.capacity 4 = numberLimit from rfl]
    omega
  exact ⟨_, serialize_eq_ok_iff.mpr ⟨_, hlt, by omega, rfl⟩, Parts.length_bytes _⟩

/-- The text of bytes that read as a key reads as the same key. -/
theorem parse_encode {data : Bytes} (h : deserialize data = .ok k) :
    parse (Checksum.encode data) = .ok k := by
  have hne : data ≠ [] := by
    rintro rfl
    exact nomatch h
  exact parse_eq_ok_iff.mpr ⟨data, Checksum.decode_encode hne, h⟩

/-- **Keys survive writing and reading.** A reachable key is written as 78 bytes and as text, and both
are read as that key; bytes and text that are read as a key are what the key writes, blanks around
the text left out. -/
theorem serialize_roundtrip :
    (∀ k, Reachable k → ∃ data text, k.serialize = .ok data ∧ data.length = 78 ∧
      deserialize data = .ok k ∧ k.toText = .ok text ∧ parse text = .ok k) ∧
    (∀ data k, deserialize data = .ok k → k.serialize = .ok data) ∧
    ∀ text k, parse text = .ok k → k.toText = .ok (String.ofList (Text.strip text.toList)) := by
  refine ⟨fun k hk => ?_, fun data k h => (of_deserialize h).2, fun text k h => ?_⟩
  · obtain ⟨data, hdata, hlen⟩ := hk.placed.serialize
    have hread := deserialize_eq_ok_iff.mpr ⟨hk.placed, hdata⟩
    refine ⟨data, Checksum.encode data, hdata, hlen, hread, ?_, parse_encode hread⟩
    rw [toText, hdata, map_ok]
  · obtain ⟨data, hdata, h⟩ := parse_eq_ok_iff.mp h
    rw [toText, (of_deserialize h).2, map_ok, Checksum.encode_decode hdata]

/-- The bytes of a master key with scalar one and a chain code of zeros. -/
def rootBytes : Bytes :=
  Bytes.ofNat 4 0x0488ADE4 ++ List.replicate 41 0 ++ Bytes.ofNat 33 1

theorem serialize_roundtrip_rootBytes :
    ∃ k text, deserialize rootBytes = .ok k ∧ Reachable k ∧ k.serialize = .ok rootBytes ∧
      k.toText = .ok text ∧ parse text = .ok k ∧
      k.toText = .ok (String.ofList (Text.strip text.toList)) := by
  obtain ⟨hwrite, hread, htext⟩ := serialize_roundtrip
  have hok : (deserialize rootBytes).isOk = true := by decide
  cases hk : deserialize rootBytes with
  | error e => rw [hk] at hok; exact nomatch hok
  | ok k =>
    obtain ⟨data, text, -, -, -, hwritten, hparse⟩ := hwrite k (.deserialized hk)
    exact ⟨k, text, rfl, .deserialized hk, hread _ k hk, hwritten, hparse, htext _ k hparse⟩

end ExtendedKey

end KeyTree

end Airgap
