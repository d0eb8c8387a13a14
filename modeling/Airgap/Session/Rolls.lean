import Airgap.Entropy.Collector
import Airgap.KeyTree.Path
import Airgap.Text.Digit

/-!
# Typed rolls of a die

* `readNumeral`, `readRoll`: the number of a text of digits, and the roll of a typed line.
* `hear`: the session after a roll, and what is said about it.
* `converse`: a whole conversation, from the lines that are typed.
* `demoRolls`: fixed rolls.
-/

namespace Airgap.Session

open Entropy (Collector Outcome)
open KeyTree.Path (longestNumeral)

/-- What is said before each line. -/
def prompt : String := "roll> "

/-- The number of a text of digits. Those in front of the first that is not decimal are counted before
any is read, and a digit that is not decimal cannot be read. -/
def readNumeral (digits : List Char) : Except Error Nat :=
  let front := digits.takeWhile (Text.decimalValue? · |>.isSome)
  if longestNumeral < front.length then .error (.numeralLength front.length)
  else
    match Text.readDecimal? digits with
    | some n => .ok n
    | none => .error (.notNumeral (String.ofList digits))

/-- The roll of a typed line; nothing if the line is blank. What is no text of digits is no number, and
digits that are no numeral cannot be read. -/
def readRoll (line : String) : Except Error (Option Outcome) :=
  let cs := Text.strip line.toList
  if cs.isEmpty then .ok none
  else if cs.all Text.isDigit then
    match readNumeral cs with
    | .ok n => .ok (some (.integer n))
    | .error e => .error e
  else .ok (some .other)

/-- The session after a roll, and what is said: why the roll was refused, or how far the session is
unless it is at its end. -/
def hear (c : Collector) (roll : Outcome) : Collector × String :=
  match (Collector.add (.outcome roll)).run c with
  | (.error e, next) => (next, "  " ++ e.message ++ "\n")
  | (.ok _, next) =>
    (next, if next.finalized then "" else s!"  {next.pool.length}/{next.target} bits\n")

/-- The finalized session that lines lead to, and all that is said on the way. -/
def converse (c : Collector) : List String → Except Error Collector × String
  | [] => (.error .endOfInput, prompt)
  | line :: lines =>
    match readRoll line with
    | .error e => (.error e, prompt)
    | .ok none =>
      let r := converse c lines
      (r.1, prompt ++ r.2)
    | .ok (some roll) =>
      let (next, said) := hear c roll
      if next.finalized then (.ok next, prompt ++ said)
      else
        let r := converse next lines
        (r.1, prompt ++ said ++ r.2)

/-- The rolls of a demonstration, over and over. -/
def demoCycle : List Outcome := [3, 1, 4, 1, 5, 2, 6, 2, 6, 5, 3, 5].map .integer

/-- Enough of the fixed rolls for a session: each time round brings at least one bit. -/
def demoRolls (target : Nat) : List Outcome := (List.replicate target demoCycle).flatten

end Airgap.Session
