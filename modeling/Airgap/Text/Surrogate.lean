import Airgap.Bytes
import Airgap.Text.Quoted
import Airgap.Text.Split

/-!
# Texts with surrogates

What is typed may hold surrogates, code points that are no characters. Such a text is compared, split and
looked up like any other, and its surrogates stay as they are; but it has no UTF-8 encoding.

* `CodePoint`, `RawText`: characters and surrogates, with `RawText.ofString` for texts without any.
* `RawText.mapRuns`: a function of characters, applied to what stands between the surrogates.
* `RawText.strip`, `RawText.fields`, `RawText.joinWords`: as for characters.
* `RawText.encode`: the UTF-8 encoding, or the first surrogates that are in its way.
-/

namespace Airgap

/-- A character, or one of the surrogates from U+D800 on. -/
inductive CodePoint where
  | char (c : Char)
  | surrogate (s : Fin 0x800)
  deriving DecidableEq, Repr

namespace CodePoint

/-- Whether a code point is a character with a property. -/
def holds (p : Char → Bool) : CodePoint → Bool
  | char c => p c
  | surrogate _ => false

/-- Whether a code point is a surrogate. -/
def isSurrogate : CodePoint → Bool
  | char _ => false
  | surrogate _ => true

/-- Whether a code point is a blank. -/
def isBlank (c : CodePoint) : Bool := c.holds Text.isBlank

end CodePoint

/-- A text that may hold surrogates. -/
abbrev RawText := List CodePoint

/-- Why a text has no UTF-8 encoding. -/
inductive Utf8Fault where
  /-- A single surrogate at a position. -/
  | surrogate (s : Fin 0x800) (position : Nat)
  /-- The surrogates between two positions, both included. -/
  | surrogateRun (start stop : Nat)
  deriving DecidableEq, Repr

/-- The text of a fault. -/
def Utf8Fault.message : Utf8Fault → String
  | surrogate s position =>
    let digits := String.ofList (Text.hexPadded 4 (0xD800 + s.val))
    "'utf-8' codec can't encode character '\\u" ++ digits ++
      s!"' in position {position}: surrogates not allowed"
  | surrogateRun start stop =>
    s!"'utf-8' codec can't encode characters in position {start}-{stop}: surrogates not allowed"

namespace RawText

/-- The text of given characters. -/
def ofChars (cs : List Char) : RawText := cs.map .char

/-- A text without surrogates. -/
def ofString (s : String) : RawText := ofChars s.toList

/-- The characters of a text. -/
def chars (t : RawText) : List Char :=
  t.filterMap fun
    | .char c => some c
    | .surrogate _ => none

/-- The surrogates of a text. -/
def surrogates (t : RawText) : List (Fin 0x800) :=
  t.filterMap fun
    | .char _ => none
    | .surrogate s => some s

/-- The text that follows the characters `run`, with `f` applied to these and all it has between two
surrogates. -/
def mapRunsFrom (f : List Char → List Char) (run : List Char) : RawText → RawText
  | [] => ofChars (f run)
  | .char c :: t => mapRunsFrom f (run ++ [c]) t
  | .surrogate s :: t => ofChars (f run) ++ .surrogate s :: mapRunsFrom f [] t

/-- The text with a function applied to what stands between the surrogates. -/
def mapRuns (f : List Char → List Char) : RawText → RawText := mapRunsFrom f []

/-- The text without the blanks at its ends. -/
def strip (t : RawText) : RawText :=
  ((t.dropWhile (·.isBlank)).reverse.dropWhile (·.isBlank)).reverse

/-- The maximal runs of code points that are not blank. -/
def fields (t : RawText) : List RawText := (Text.splitWhere (·.isBlank) t).filter (!·.isEmpty)

/-- The texts with one space between neighbours. -/
def joinWords (ws : List RawText) : RawText := [.char ' '].intercalate ws

/-- The UTF-8 encoding of a text. -/
def encode (t : RawText) : Except Utf8Fault Bytes :=
  let start := (t.takeWhile (!·.isSurrogate)).length
  match surrogates ((t.dropWhile (!·.isSurrogate)).takeWhile (·.isSurrogate)) with
  | [] => .ok (Bytes.ofText (String.ofList t.chars))
  | [s] => .error (.surrogate s start)
  | run => .error (.surrogateRun start (start + run.length - 1))

end RawText

end Airgap
