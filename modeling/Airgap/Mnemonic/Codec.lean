import Airgap.Mnemonic.Electrum

/-!
# Codecs

A `Codec` is a scheme with its word list, and for Electrum the version to make.
-/

namespace Airgap.Mnemonic

/-- A way to turn entropy into words and back. -/
inductive Codec where
  | bip39 (words : WordList)
  | electrum (words : WordList) (version : SeedVersion)

namespace Codec

/-- The scheme of a codec. -/
def scheme : Codec → Scheme
  | .bip39 _ => .bip39
  | .electrum .. => .electrum

/-- The word list of a codec. -/
def words : Codec → WordList
  | .bip39 l | .electrum l _ => l

/-- The codec of a scheme; Electrum makes native segwit phrases unless told otherwise. -/
def ofScheme (scheme : Scheme) (l : WordList) : Codec :=
  match scheme with
  | .bip39 => .bip39 l
  | .electrum => .electrum l .segwit

/-- The mnemonic of the entropy. -/
def encode (c : Codec) (entropy : Bytes) : Except Error Mnemonic :=
  match c with
  | .bip39 l => Bip39.encode l entropy
  | .electrum l v => (·.1) <$> Electrum.generate l v entropy none

/-- The entropy of a mnemonic. -/
def decode (c : Codec) (input : Input) : Except Error Bytes :=
  match c with
  | .bip39 l => Bip39.decode l input
  | .electrum l _ => Electrum.decode l input

/-- Whether an input decodes. -/
def accepts (c : Codec) (input : Input) : Bool := (c.decode input).isOk

/-- Whether an input decodes, where only a failure that is the caller's counts as an answer. -/
def validate (c : Codec) (input : Input) : Except Error Bool :=
  match c.decode input with
  | .ok _ => .ok true
  | .error e => if e.kind.isInput then .ok false else .error e

/-- The seed of a mnemonic under a passphrase. -/
def toSeed (c : Codec) (input : Input) (passphrase : String) (checked : Bool) (rounds : Int) :
    Except Error Bytes :=
  match c with
  | .bip39 l => Bip39.toSeed l input passphrase checked rounds
  | .electrum l _ => Electrum.toSeed l input passphrase checked rounds

/-- The rounds of stretching that the scheme lays down. -/
def rounds : Codec → Nat
  | .bip39 _ => Bip39.rounds
  | .electrum .. => Electrum.rounds

end Codec

end Airgap.Mnemonic
