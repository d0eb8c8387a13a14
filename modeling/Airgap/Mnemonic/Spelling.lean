import Airgap.Text.Case
import Airgap.Text.NormalForm
import Airgap.Text.Split

/-!
# Spelling of words and phrases

Typed text is brought to one spelling before it is looked up or hashed.

* `normalizeWord`, `normalizePhrase`: without invisible characters, decomposed, case folded, blanks
  trimmed and, in a phrase, collapsed.
* `splitPhrase`: the words of a typed phrase.
* `electrumForm`: lower case instead of folding, no accents, and no space between ideographs.
-/

namespace Airgap.Mnemonic

open Text (nfkd strip fields joinWords isBlank)

/-- Zero-width characters, marks of direction and other characters without a glyph. -/
def isInvisible (c : Char) : Bool :=
  let n := c.toNat
  (0x200B ≤ n && n ≤ 0x200F) || (0x2060 ≤ n && n ≤ 0x2064) || n == 0xAD || n == 0x34F ||
    n == 0x61C || n == 0x180E || n == 0xFEFF

/-- The text without invisible characters. -/
def visible (cs : List Char) : List Char := cs.filter (!isInvisible ·)

/-- The spelling of one word. -/
def normalWord (cs : List Char) : List Char := Text.fold (strip (nfkd (visible cs)))

/-- The words of a phrase, in one spelling and with one space between them. -/
def normalPhrase (cs : List Char) : List Char := joinWords (fields (Text.fold (nfkd (visible cs))))

/-- The words of a typed phrase: the pieces of its spelling between spaces, and none of a phrase of
blanks. -/
def phraseWords (cs : List Char) : List (List Char) :=
  if (strip cs).isEmpty then [] else Text.splitWhere (· == ' ') (normalPhrase cs)

/-! ## Electrum -/

/-- The decomposed text without its combining marks. -/
def stripMarks (cs : List Char) : List Char := (nfkd cs).filter (Text.combiningClass · == 0)

/-- The blocks of ideographs and syllables. -/
def ideographRanges : List Text.CodeRange := [
  ⟨0x1100, 0x11FF⟩, ⟨0x2E80, 0x2FDF⟩, ⟨0x3000, 0x303F⟩, ⟨0x3040, 0x30FF⟩, ⟨0x3100, 0x31FF⟩,
  ⟨0x3200, 0x4DBF⟩, ⟨0x4E00, 0x9FFF⟩, ⟨0xA960, 0xA97F⟩, ⟨0xAC00, 0xD7FF⟩, ⟨0xF900, 0xFAFF⟩,
  ⟨0xFF00, 0xFFEF⟩, ⟨0x20000, 0x2FA1F⟩]

/-- Whether a character is an ideograph or a syllable. -/
def isIdeograph (c : Char) : Bool := Text.CodeRange.any ideographRanges c

/-- Whether there is a character and it is an ideograph. -/
def facesIdeograph : Option Char → Bool
  | some c => isIdeograph c
  | none => false

/-- The text that follows the character `before`, without the blanks between two ideographs. -/
def closeUp (before : Option Char) : List Char → List Char
  | [] => []
  | c :: cs =>
    if isBlank c && facesIdeograph before && facesIdeograph cs.head? then closeUp (some c) cs
    else c :: closeUp (some c) cs

/-- The form of a phrase or passphrase that Electrum hashes. -/
def electrumForm (cs : List Char) : List Char :=
  closeUp none (joinWords (fields (stripMarks (Text.lower (nfkd (visible cs))))))

/-! ## On strings -/

/-- A function of character lists on strings. -/
def onString (f : List Char → List Char) (s : String) : String := String.ofList (f s.toList)

/-- The spelling of one word. -/
def normalizeWord : String → String := onString normalWord

/-- The words of a phrase, in one spelling and with one space between them. -/
def normalizePhrase : String → String := onString normalPhrase

/-- The words of a typed phrase. -/
def splitPhrase (s : String) : List String := (phraseWords s.toList).map String.ofList

/-- The decomposed text. -/
def decomposed : String → String := onString nfkd

/-- The decomposed text without its combining marks. -/
def stripAccents : String → String := onString stripMarks

/-- The form of a phrase or passphrase that Electrum hashes. -/
def electrumNormalize : String → String := onString electrumForm

end Airgap.Mnemonic
