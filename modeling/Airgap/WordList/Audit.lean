import Airgap.Decimal.Fixed
import Airgap.WordList.Basic

/-!
# Audit of a word list

A list is fit for stamped backups when it has 2048 different lower-case words in order and no two of
them agree in their first four letters.

* `Audit.ofWords`: the findings about any list of texts.
* `Audit.passes`: no finding.
* `Audit.report`: the findings as a text.
-/

namespace Airgap.WordList

/-- The letters that are stamped. -/
def stemLength : Nat := 4

/-- The first letters of a word. -/
def stem (w : String) : String := String.ofList (w.toList.take stemLength)

/-- Whether a text is a word of lower-case letters a to z. -/
def isPlain (w : String) : Bool := !w.isEmpty && w.toList.all fun c => 'a' ≤ c && c ≤ 'z'

/-- Whether each text is not after the next in code-point order. -/
def inOrder : List String → Bool
  | a :: b :: ws => notAfter a b && inOrder (b :: ws)
  | _ => true

/-- The different texts that occur, in order of their first occurrence. -/
def firsts (ws : List String) : List String := ws.eraseDups

/-- The findings about a list. -/
structure Audit where
  count : Nat
  ordered : Bool
  /-- The texts that occur more than once, in code-point order. -/
  duplicates : List String
  /-- The texts with other characters than a to z, in the list's order. -/
  unplain : List String
  /-- The stems of several entries, by first occurrence, with their entries. -/
  shared : List (String × List String)
  shortest : Nat
  longest : Nat
  letters : Nat

namespace Audit

/-- The entries under each stem that has several. -/
def sharedStems (ws : List String) : List (String × List String) :=
  let entries := ws.map fun w => (stem w, w)
  (firsts (entries.map (·.1))).filterMap fun s =>
    match entries.filter (·.1 == s) with
    | a :: b :: more => some (s, (a :: b :: more).map (·.2))
    | _ => none

/-- The findings about a list of texts. -/
def ofWords (ws : List String) : Audit where
  count := ws.length
  ordered := inOrder ws
  duplicates := (firsts (ws.filter fun w => 1 < ws.count w)).mergeSort notAfter
  unplain := ws.filter (!isPlain ·)
  shared := sharedStems ws
  shortest := ((ws.map (·.length)).min?).getD 0
  longest := ((ws.map (·.length)).max?).getD 0
  letters := (ws.flatMap (·.toList)).length

/-- The checks by name. -/
def checks (a : Audit) : List (String × Bool) := [
  ("count", a.count == wordCount), ("unique", a.duplicates.isEmpty), ("sorted", a.ordered),
  ("charset", a.unplain.isEmpty), ("prefix_unique", a.shared.isEmpty)]

/-- Whether every check holds. -/
def passes (a : Audit) : Bool := a.checks.all (·.2)

/-- The exit code of an audit. -/
def exitCode (a : Audit) : Nat := if a.passes then 0 else 1

/-- The mean length of a word; zero for an empty list. -/
def meanLength (a : Audit) : Float :=
  if a.count = 0 then 0 else Float.ofNat a.letters / Float.ofNat a.count

/-- Seventy equals signs. -/
def rule : String := String.ofList (List.replicate 70 '=')

/-- The lines of the report on a list of the given name and size. -/
def lines (a : Audit) (language : String) (size : Nat) : List String :=
  [rule, s!"WORDLIST AUDIT ({language}, {size} words)", rule] ++
  a.checks.map (fun c => "  [" ++ (if c.2 then "+" else "!") ++ "] " ++ c.1) ++
  ["", s!"  Word length: min {a.shortest}, max {a.longest}, avg " ++
    Decimal.fixed 2 a.meanLength] ++
  (if a.duplicates.isEmpty then [] else ["", "  Duplicates: " ++ ", ".intercalate a.duplicates]) ++
  (if a.unplain.isEmpty then []
    else ["", "  Non a-z words: " ++ ", ".intercalate (a.unplain.take 20)]) ++
  (if a.shared.isEmpty then []
    else ["", s!"  Words sharing a {stemLength}-letter prefix:"] ++
      ((a.shared.mergeSort fun x y => notAfter x.1 y.1).take 20).map fun e =>
        "    " ++ e.1 ++ ": " ++ " | ".intercalate e.2) ++
  ["", rule, if a.passes then "PASS" else "FAIL", rule]

/-- The report, each line ended by a line feed. -/
def report (a : Audit) (language : String) (size : Nat) : String :=
  String.join ((a.lines language size).map (· ++ "\n"))

end Audit

end Airgap.WordList
