import Airgap.KeyTree.ExtendedKey
import Airgap.KeyTree.Path

/-!
# Derivation (BIP32)

* `masterKey`: the root of the tree of a seed.
* `deriveChild`, `derivePath`: one step and many.
* `neuter`: the public counterpart of a key.
-/

namespace Airgap.KeyTree

open Digest (hmac)

/-- The key of the code that makes master keys. -/
def seedKey : Bytes := Bytes.ofText "Bitcoin seed"

/-- The fewest bytes of a seed. -/
def minSeedSize : Nat := 16

/-- The most bytes of a seed. -/
def maxSeedSize : Nat := 64

/-- The master key of a seed. -/
def masterKey (seed : Bytes) (network : Network) : Except Error ExtendedKey :=
  if minSeedSize ≤ seed.length ∧ seed.length ≤ maxSeedSize then
    let code := (hmac .sha512 seedKey seed).value
    if Curve.isPrivateScalar (Bytes.toNat (code.take 32)) then
      ExtendedKey.ofFields .secret (code.take 32) (code.drop 32) 0 zeroFingerprint 0 network
    else .error .invalidSeed
  else .error (.seedLength seed.length)

namespace ExtendedKey

/-- The code that a step is derived from: of the private key for a hardened step, of the public key
otherwise. -/
def stepCode (parent : ExtendedKey) (step : ChildNumber) : Except Error Bytes := do
  let number := Bytes.ofNat 4 step.raw
  let start ← if step.hardened then pure (0 :: parent.key) else parent.publicKey
  return (hmac .sha512 parent.chainCode (start ++ number)).value

/-- The key data of a child whose code starts with the number `left`: the sum with the parent's
scalar or point. -/
def childKey (parent : ExtendedKey) (step : ChildNumber) (left : Nat) : Except Error Bytes :=
  if Curve.order ≤ left then .error (.invalidChild step.index step.hardened)
  else if parent.isPrivate then
    let k := (left + Bytes.toNat parent.key) % Curve.order
    if k = 0 then .error (.invalidChild step.index step.hardened)
    else .ok (Bytes.ofNat Curve.keySize k)
  else do
    let point ← Curve.decompress parent.key
    match Curve.add (Curve.multiple left (some Curve.generator)) (some point) with
    | none => throw (.invalidChild step.index step.hardened)
    | some p => Curve.compress (some p)

/-- The child of a key at a step. -/
def deriveChild (parent : ExtendedKey) (step : ChildNumber) : Except Error ExtendedKey := do
  if step.hardened && !parent.isPrivate then throw (.hardenedFromPublic step.index)
  if maxDepth ≤ parent.depth then throw .maximumDepth
  let code ← parent.stepCode step
  let key ← parent.childKey step (Bytes.toNat (code.take 32))
  ofFields parent.kind key (code.drop 32) (parent.depth + 1) (← parent.fingerprint) step.raw
    parent.network

/-- The child of a key at an index, or at a 32-bit child number. -/
def deriveIndex (parent : ExtendedKey) (index : Int) (hardened : Bool) :
    Except Error ExtendedKey := do
  parent.deriveChild (← ChildNumber.ofInteger index hardened)

/-- The descendant of a key along a path. -/
def derivePath (root : ExtendedKey) (path : Path) : Except Error ExtendedKey :=
  path.steps.foldlM deriveChild root

/-- The public counterpart of a key; a public key is its own. -/
def neuter (k : ExtendedKey) : Except Error ExtendedKey :=
  if k.isPrivate then do
    ofFields .publicOnly (← k.publicKey) k.chainCode k.depth k.parentFingerprint k.childNumber
      k.network
  else .ok k

end ExtendedKey

end Airgap.KeyTree
