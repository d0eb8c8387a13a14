import Airgap.Entropy.Bits
import Airgap.Error

/-!
# Von Neumann correction

Two outcomes of one source are compared bit by bit. Where they differ, the first one's bit is kept;
equal bits are dropped. However biased the source, the kept bits are not.

* `corrected`: a sequence of single bits, taken in pairs.
* `correctedPair`: two outcomes of several bits.
-/

namespace Airgap.Entropy

/-- The consecutive pairs of a sequence; a last item without a partner is left out. -/
def pairs {α : Type} : List α → List (α × α)
  | a :: b :: rest => (a, b) :: pairs rest
  | _ => []

/-- The bit that a pair yields, if its bits differ. -/
def keptBit (p : Bool × Bool) : Option Bool := if p.1 = p.2 then none else some p.1

/-- The corrected sequence of single bits. -/
def corrected (bits : List Bool) : List Bool := (pairs bits).filterMap keptBit

/-- The corrected bits of two outcomes of `width` bits. -/
def correctedPair (width first second : Nat) : List Bool :=
  ((bitsOf width first).zip (bitsOf width second)).filterMap keptBit

/-- The bit of a number that is zero or one. -/
def readBit (n : Int) : Except Error Bool :=
  if n = 0 then .ok false else if n = 1 then .ok true else .error .notBinary

/-- The corrected sequence of numbers; those with a partner must be zero or one. -/
def correctedNumbers (ns : List Int) : Except Error (List Bool) := do
  let ps ← (pairs ns).mapM fun p => do return (← readBit p.1, ← readBit p.2)
  return ps.filterMap keptBit

end Airgap.Entropy
