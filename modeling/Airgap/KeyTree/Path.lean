import Airgap.KeyTree.ChildNumber
import Airgap.Text.Split

/-!
# Derivation paths

A path is a sequence of steps, written `m/44'/0'/0'/1`. In text `h` and `H` mark a hardened step as
well, the leading `m` may be missing or a capital, and blanks may surround every component.
-/

namespace Airgap.KeyTree

/-- The steps from a key down to a descendant. -/
structure Path where
  steps : List ChildNumber
  deriving DecidableEq

namespace Path

/-- The path with one more step. -/
def child (p : Path) (c : ChildNumber) : Path := ⟨p.steps ++ [c]⟩

/-- The text of a path. -/
def text (p : Path) : String := "/".intercalate ("m" :: p.steps.map (·.text))

/-! ## Steps -/

/-- The marks of a hardened step. -/
def hardenedMarks : List Char := ['\x27', 'h', 'H']

/-- Digits of the longest numeral that is read. -/
def longestNumeral : Nat := 4300

/-- Whether a component ends in a mark of a hardened step. -/
def isMarked (part : List Char) : Bool := hardenedMarks.any (part.getLast? == some ·)

/-- The component without its mark. -/
def unmarked (part : List Char) : List Char := if isMarked part then part.dropLast else part

/-- Whether a character is an ASCII digit. -/
def isNumeralDigit (c : Char) : Bool := '0' ≤ c && c ≤ '9'

/-- The number of a numeral, if it is one or more ASCII digits. -/
def readIndex? (cs : List Char) : Option Nat :=
  if !cs.isEmpty && cs.all isNumeralDigit then
    some (cs.foldl (fun n c => 10 * n + (c.toNat - 48)) 0)
  else none

/-- The step of a component of the given text. -/
def readStep (text : String) (part : List Char) : Except Error ChildNumber :=
  match readIndex? (unmarked part) with
  | some index =>
    if longestNumeral < (unmarked part).length then .error (.numeralLength (unmarked part).length)
    else ChildNumber.ofIndex index (isMarked part)
  | none => .error (.pathComponent (String.ofList part) text)

/-! ## Paths -/

/-- The pieces between slashes, without blanks around them. -/
def pieces (cs : List Char) : List (List Char) :=
  (Text.splitWhere (· == '/') (Text.strip cs)).map Text.strip

/-- The pieces behind a leading `m`; a single piece that is empty is none. -/
def afterRoot (parts : List (List Char)) : List (List Char) :=
  let rest := if parts.head? == some ['m'] || parts.head? == some ['M'] then parts.tail else parts
  if rest == [[]] then [] else rest

/-- The components that stand for steps. -/
def components (cs : List Char) : List (List Char) := afterRoot (pieces cs)

/-- The path of a text. -/
def parse (text : String) : Except Error Path := do
  return ⟨← (components text.toList).mapM (readStep text)⟩

end Path

end Airgap.KeyTree
