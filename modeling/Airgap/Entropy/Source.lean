/-!
# Sources of entropy

Coins, dice and typed bytes. A source with `arity` equally likely outcomes keeps the lowest
`2 ^ bits` of them, so that each kept outcome is worth `bits` unbiased bits.
-/

namespace Airgap.Entropy

/-- What an operator throws, rolls or types. -/
inductive Source where
  | coin
  | d4
  | d6
  | d8
  | d10
  | d12
  | d16
  | d20
  | d100
  | byte
  deriving DecidableEq, Repr

namespace Source

/-- All sources. -/
def all : List Source := [.coin, .d4, .d6, .d8, .d10, .d12, .d16, .d20, .d100, .byte]

/-- The name of a source. -/
def name : Source → String
  | .coin => "COIN"
  | .d4 => "D4"
  | .d6 => "D6"
  | .d8 => "D8"
  | .d10 => "D10"
  | .d12 => "D12"
  | .d16 => "D16"
  | .d20 => "D20"
  | .d100 => "D100"
  | .byte => "BYTE"

/-- The source of a name. -/
def ofName? (s : String) : Option Source := all.find? (·.name == s)

/-- The number of outcomes. -/
def arity : Source → Nat
  | .coin => 2
  | .d4 => 4
  | .d6 => 6
  | .d8 => 8
  | .d10 => 10
  | .d12 => 12
  | .d16 => 16
  | .d20 => 20
  | .d100 => 100
  | .byte => 256

/-- The lowest outcome as entered: dice count from one, coins and bytes from zero. -/
def first : Source → Nat
  | .coin | .byte => 0
  | _ => 1

/-- Whether pairs of outcomes can be corrected for bias: the arity is a power of two. -/
def supportsCorrection : Source → Bool
  | .coin | .d4 | .d8 | .d16 | .byte => true
  | _ => false

/-- The bits of one kept outcome. -/
def bits (s : Source) : Nat := s.arity.log2

/-- The number of outcomes kept. -/
def retained (s : Source) : Nat := 1 <<< s.bits

/-- The highest outcome as entered. -/
def last (s : Source) : Nat := s.first + s.arity - 1

end Source

end Airgap.Entropy
