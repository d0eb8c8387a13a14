/-!
# Networks

Each network marks its extended keys with two version numbers, one for private and one for public
keys.
-/

namespace Airgap

/-- The networks that extended keys are written for. -/
inductive Network where
  | mainnet
  | testnet
  deriving DecidableEq, Repr

namespace Network

/-- All networks. -/
def all : List Network := [.mainnet, .testnet]

/-- The name of a network. -/
def name : Network → String
  | .mainnet => "MAINNET"
  | .testnet => "TESTNET"

/-- The network of a name. -/
def ofName? (s : String) : Option Network := all.find? (·.name == s)

/-- The version number of private keys. -/
def privateVersion : Network → Nat
  | .mainnet => 0x0488ADE4
  | .testnet => 0x04358394

/-- The version number of public keys. -/
def publicVersion : Network → Nat
  | .mainnet => 0x0488B21E
  | .testnet => 0x043587CF

/-- The version number of keys that are private or not. -/
def version (n : Network) (isPrivate : Bool) : Nat :=
  if isPrivate then n.privateVersion else n.publicVersion

/-- The network of a version number, and whether it marks private keys. -/
def ofVersion? (version : Int) : Option (Network × Bool) :=
  if version = mainnet.privateVersion then some (mainnet, true)
  else if version = mainnet.publicVersion then some (mainnet, false)
  else if version = testnet.privateVersion then some (testnet, true)
  else if version = testnet.publicVersion then some (testnet, false)
  else none

theorem ofVersion?_version (n : Network) (isPrivate : Bool) :
    ofVersion? (n.version isPrivate) = some (n, isPrivate) := by
  cases n <;> cases isPrivate <;> decide

end Network

end Airgap
