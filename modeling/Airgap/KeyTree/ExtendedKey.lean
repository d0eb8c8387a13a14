import Airgap.Checksum.Check
import Airgap.Curve.PrivateKey
import Airgap.KeyTree.ChildNumber
import Airgap.Network
import Airgap.Width

/-!
# Extended keys (BIP32)

A key together with its chain code and its place in the tree.

* `ExtendedKey.ofFields`: the key of given fields, if they are valid.
* `ExtendedKey.serialize`, `ExtendedKey.deserialize`: the 78 bytes of a key.
* `ExtendedKey.toText`, `ExtendedKey.parse`: the same as Base58Check text.
-/

namespace Airgap.KeyTree

/-- Private or public. -/
inductive KeyKind where
  | secret
  | publicOnly
  deriving DecidableEq, Repr

namespace KeyKind

/-- All kinds. -/
def all : List KeyKind := [.secret, .publicOnly]

/-- The name of a kind. -/
def name : KeyKind → String
  | .secret => "private"
  | .publicOnly => "public"

/-- The name of a kind in descriptions. -/
def title : KeyKind → String
  | .secret => "PRIVATE"
  | .publicOnly => "PUBLIC"

/-- The kind of a name. -/
def ofName? (s : String) : Option KeyKind := all.find? (·.name == s)

/-- Whether keys of this kind can derive hardened children. -/
def isPrivate (k : KeyKind) : Bool := k = .secret

end KeyKind

/-- The greatest depth of a key. -/
def maxDepth : Nat := 255

/-- Bytes of a serialized key. -/
def serializedSize : Nat := 78

/-- The fingerprint that a master key has for its parent. -/
def zeroFingerprint : Bytes := [0, 0, 0, 0]

/-- What is wrong with the key data of a kind, if anything: a private key is a scalar in 32 bytes, a
public one a compressed point of the curve. -/
def checkKey (kind : KeyKind) (key : Bytes) : Except Error Unit :=
  match kind with
  | .secret =>
    if key.length = Curve.keySize ∧ Curve.isPrivateScalar (Bytes.toNat key) = true then .ok ()
    else .error .privateKeyData
  | .publicOnly =>
    if key.length = Curve.keySize + 1 ∧ (key.head? = some 2 ∨ key.head? = some 3) then
      discard (Curve.decompress key)
    else .error .publicKeyData

/-- A node of the key tree. The child number is any integer; only one of 32 bits can be written. -/
structure ExtendedKey where
  kind : KeyKind
  key : Bytes
  chainCode : Bytes
  depth : Nat
  parentFingerprint : Bytes
  childNumber : Int
  network : Network
  length_chainCode : chainCode.length = 32
  depth_le : depth ≤ maxDepth
  length_parentFingerprint : parentFingerprint.length = 4
  key_ok : checkKey kind key = .ok ()

namespace ExtendedKey

/-- The key of the given fields, or the first fault among them. -/
def ofFields (kind : KeyKind) (key chainCode : Bytes) (depth : Int) (parentFingerprint : Bytes)
    (childNumber : Int) (network : Network) : Except Error ExtendedKey :=
  if hc : chainCode.length = 32 then
    if hd : 0 ≤ depth ∧ depth ≤ maxDepth then
      if hp : parentFingerprint.length = 4 then
        match hk : checkKey kind key with
        | .ok () => .ok ⟨kind, key, chainCode, depth.toNat, parentFingerprint, childNumber, network,
            hc, by omega, hp, hk⟩
        | .error e => .error e
      else .error .parentFingerprintLength
    else .error .depthRange
  else .error .chainCodeLength

/-- Whether the key is private. -/
def isPrivate (k : ExtendedKey) : Bool := k.kind.isPrivate

/-- The compressed public key. -/
def publicKey (k : ExtendedKey) : Except Error Bytes :=
  if k.isPrivate then Curve.publicKey (Bytes.toNat k.key) else .ok k.key

/-- The private scalar in bytes. -/
def privateKey (k : ExtendedKey) : Except Error Bytes :=
  if k.isPrivate then .ok k.key else .error .noPrivateKey

/-- The hash of the public key. -/
def identifier (k : ExtendedKey) : Except Error Bytes := Digest.hash160 <$> k.publicKey

/-- The first bytes of the identifier. -/
def fingerprint (k : ExtendedKey) : Except Error Bytes := (·.take 4) <$> k.identifier

/-- The step from the parent to this key. -/
def index (k : ExtendedKey) : Except Error ChildNumber := ChildNumber.ofRaw k.childNumber

/-- The version number that marks the key. -/
def version (k : ExtendedKey) : Nat := k.network.version k.isPrivate

/-- A description that shows neither key nor chain code. -/
def summary (k : ExtendedKey) : Except Error String := do
  let index ← k.index
  let fingerprint ← k.fingerprint
  return s!"ExtendedKey({k.kind.title}, depth={k.depth}, child={index.text}, " ++
    s!"fingerprint={Bytes.toHex fingerprint}, network={k.network.name})"

/-! ## Bytes and text -/

/-- The 78 bytes of a key. -/
def serialize (k : ExtendedKey) : Except Error Bytes := do
  let number ← fixedBytes 4 k.childNumber
  let data := if k.isPrivate then 0 :: k.key else k.key
  return Bytes.ofNat 4 k.version ++ UInt8.ofNat k.depth :: k.parentFingerprint ++ number ++
    k.chainCode ++ data

/-- The key of 78 bytes; at depth zero there is no parent and no child number. -/
def deserialize (data : Bytes) : Except Error ExtendedKey := do
  if data.length ≠ serializedSize then throw (.extendedKeyLength data.length)
  let version := Bytes.toNat (data.take 4)
  match Network.ofVersion? version with
  | none => throw (.unknownVersion version)
  | some (network, isPrivate) =>
    let depth := ((data.drop 4).headD 0).toNat
    let parentFingerprint := (data.drop 5).take 4
    let number := Bytes.toNat ((data.drop 9).take 4)
    let chainCode := (data.drop 13).take 32
    let keyData := data.drop 45
    if depth = 0 ∧ (parentFingerprint ≠ zeroFingerprint ∨ number ≠ 0) then throw .masterFields
    let marker := keyData.headD 0
    if isPrivate then
      if marker ≠ 0 then throw .privateMarker
      ofFields .secret keyData.tail chainCode depth parentFingerprint number network
    else
      if marker ≠ 2 ∧ marker ≠ 3 then throw .publicMarker
      ofFields .publicOnly keyData chainCode depth parentFingerprint number network

/-- The Base58Check text of a key. -/
def toText (k : ExtendedKey) : Except Error String := Checksum.encode <$> k.serialize

/-- The key of a Base58Check text. -/
def parse (text : String) : Except Error ExtendedKey := do deserialize (← Checksum.decode text)

/-- Whether two keys have the same bytes. -/
def equals (k l : ExtendedKey) : Except Error Bool := do
  return (← k.serialize) = (← l.serialize)

end ExtendedKey

end Airgap.KeyTree
