/-!
# Mnemonic schemes

* `Scheme`: BIP39, with a checksum in the words, and Electrum, with a version in their hash.
* `SeedVersion`: the wallet types that an Electrum phrase can carry.
* `wordCounts`: the lengths of a phrase under either scheme.
-/

namespace Airgap.Mnemonic

/-- The two ways to write entropy in words. -/
inductive Scheme where
  | bip39
  | electrum
  deriving DecidableEq, Repr

namespace Scheme

/-- All schemes. -/
def all : List Scheme := [.bip39, .electrum]

/-- The name a scheme is chosen by. -/
def name : Scheme → String
  | .bip39 => "bip39"
  | .electrum => "electrum"

/-- The name of a scheme in messages. -/
def title : Scheme → String
  | .bip39 => "BIP39"
  | .electrum => "ELECTRUM"

/-- The scheme of a name. -/
def ofName? (s : String) : Option Scheme := all.find? (·.name == s)

end Scheme

/-- The wallet type of an Electrum phrase. -/
inductive SeedVersion where
  | standard
  | segwit
  | twoFactor
  | twoFactorSegwit
  deriving DecidableEq, Repr

namespace SeedVersion

/-- All versions, in the order in which they are looked for. -/
def all : List SeedVersion := [.standard, .segwit, .twoFactor, .twoFactorSegwit]

/-- The hexadecimal digits that the hash of a phrase of this version starts with. -/
def tag : SeedVersion → String
  | .standard => "01"
  | .segwit => "100"
  | .twoFactor => "101"
  | .twoFactorSegwit => "102"

/-- The name of a version. -/
def name : SeedVersion → String
  | .standard => "STANDARD"
  | .segwit => "SEGWIT"
  | .twoFactor => "TWO_FA"
  | .twoFactorSegwit => "TWO_FA_SEGWIT"

/-- The version of a tag. -/
def ofTag? (s : String) : Option SeedVersion := all.find? (·.tag == s)

/-- Whether phrases of this version are made here; the two-factor ones need a cosigner. -/
def canGenerate : SeedVersion → Bool
  | .standard | .segwit => true
  | _ => false

end SeedVersion

/-- The numbers of words a phrase may have. -/
def wordCounts : List Nat := [12, 15, 18, 21, 24]

end Airgap.Mnemonic
