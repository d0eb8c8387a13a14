import Airgap.Curve.Sec1
import Airgap.Digest.Hmac

/-!
# Private scalars and their public keys

* `isPrivateScalar`: the scalars in `[1, order)`.
* `publicKey`: the compressed multiple of the base point.
* `KeyNumber.fit`: maps any positive number to a private scalar, by hashing the numbers that are too
  large until a scalar results.
* `fitPrivateKey`: the same with a bound on the numbers that are hashed.
-/

namespace Airgap.Curve

open Digest (hmac)

/-- Whether an integer is a private scalar. -/
def isPrivateScalar (k : Int) : Bool := 0 < k ∧ k < order

/-- The compressed public key of a private scalar. -/
def publicKey (k : Int) : Except Error Bytes := do
  if !isPrivateScalar k then throw .privateScalarRange
  compress (multiple k.toNat (some generator))

/-- The key that hashes numbers into the scalars. -/
def fitLabel : Bytes := Bytes.ofText "Extremely Large Numer Private Key"

/-- The scalar candidate of a number: the first half of the code of its shortest bytes. -/
def fitCandidate (n : Nat) : Nat :=
  Bytes.toNat ((hmac .sha512 fitLabel (Bytes.minimal n)).value.take keySize)

/-! ## Without a bound -/

/-- A number that is to be a key: itself, or the big-endian bytes that write it. -/
inductive KeyNumber where
  | integer (n : Int)
  | bytes (bs : Bytes)
  deriving DecidableEq, Repr

/-- The number itself. -/
def KeyNumber.value : KeyNumber → Int
  | .integer n => n
  | .bytes bs => Bytes.toNat bs

/-- The candidate of a number that is first written in as many bytes as its bits need. -/
def writtenCandidate (n : Nat) : Except Error Nat := do
  let message ← fixedBytes ((Bytes.bitLength n + 7) / 8) n
  return Bytes.toNat ((hmac .sha512 fitLabel message).value.take keySize)

/-- The key of the first number from `n` on that is a private scalar or has a candidate that is one;
`none` is a search that does not end. -/
def fitFrom (n : Nat) : Option (Except Error Bytes) :=
  if isPrivateScalar n then some (fixedBytes keySize n)
  else
    match writtenCandidate n with
    | .error e => some (.error e)
    | .ok c =>
      if isPrivateScalar c then some (fixedBytes keySize c)
      -- unlike an application, `unop%` keeps no source position in the definition
      else unop% fitFrom (n + 1)
partial_fixpoint

/-- The private key that a positive number fits to. -/
def KeyNumber.fit (k : KeyNumber) : Option (Except Error Bytes) :=
  if k.value ≤ 0 then some (.error .zeroPrivateKey) else fitFrom k.value.toNat

/-! ## With a bound -/

/-- The candidate of the least number from `n` on whose candidate is a private scalar, among the
first `attempts` numbers. -/
def fitSearch : Nat → Nat → Option Nat
  | 0, _ => none
  | attempts + 1, n =>
    if isPrivateScalar (fitCandidate n) then some (fitCandidate n) else fitSearch attempts (n + 1)

/-- The private key of a positive number, looking at no more than `attempts` candidates; `none` if
they all fail. Numbers that are private scalars stay as they are. -/
def fitPrivateKey (attempts : Nat) (value : Int) : Except Error (Option Bytes) :=
  if value ≤ 0 then .error .zeroPrivateKey
  else if isPrivateScalar value then .ok (some (Bytes.ofNat keySize value.toNat))
  else .ok ((fitSearch attempts value.toNat).map (Bytes.ofNat keySize))

end Airgap.Curve
