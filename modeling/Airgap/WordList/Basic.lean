import Airgap.Mnemonic.Spelling
import Airgap.Width
import Airgap.WordList.English

/-!
# Word lists

A word list has 2048 different words, so that a word stands for eleven bits.

* `ofWords`: the list of given words, if they are right in number and different.
* `index`, `resolve`: the place of a typed word, and of many at once.
* `search`, `complete`: the words that start with what was typed.
* `english`: the list that both schemes share.
-/

namespace Airgap

open Mnemonic (normalizeWord)

/-- Words in a list. -/
abbrev wordCount : Nat := 2048

/-- The place of a word in a list. -/
abbrev WordIndex := Fin wordCount

/-- An ordered list of 2048 different words. -/
structure WordList where
  language : String
  words : Vector String wordCount
  nodup : words.toList.Nodup

namespace WordList

/-- The bits that a word stands for. -/
def bitsPerWord : Nat := 11

/-- The list of the given words. -/
def ofWords (language : String) (ws : List String) : Except Error WordList :=
  if hl : ws.length = wordCount then
    if hn : ws.Nodup then
      .ok ⟨language, ⟨ws.toArray, by rw [List.size_toArray, hl]⟩, hn⟩
    else .error (.duplicateWords language)
  else .error (.wordListSize language ws.length)

/-- The word at a place. -/
def word (l : WordList) (i : WordIndex) : String := l.words[i]

/-- The word at a position counted from the front, or from the end if negative. -/
def get (l : WordList) (i : Int) : Except Error String :=
  let place := if i < 0 then i + wordCount else i
  if !fitsWord i then .error .positionWidth
  else if h : 0 ≤ place ∧ place < wordCount then .ok (l.words.get ⟨place.toNat, by omega⟩)
  else .error .wordIndex

/-- The place of a word in this very spelling. -/
def find? (l : WordList) (w : String) : Option WordIndex := l.words.findFinIdx? (· == w)

/-- The place of a typed word. -/
def lookup? (l : WordList) (typed : String) : Option WordIndex := l.find? (normalizeWord typed)

/-- Whether a typed word is listed. -/
def contains (l : WordList) (typed : String) : Bool := (l.lookup? typed).isSome

/-- The place of a typed word; the position in its phrase is for the message. -/
def index (l : WordList) (typed : String) (position : Option Int) : Except Error WordIndex :=
  match l.lookup? typed with
  | some i => .ok i
  | none => .error (.unknownWord typed position)

/-- The places of the words that are listed, and the positions and words that are not. -/
def resolve (l : WordList) (typed : List String) : List WordIndex × List (Nat × String) :=
  (typed.filterMap l.lookup?,
    (typed.zipIdx.filter fun p => (l.lookup? p.1).isNone).map fun p => (p.2, p.1))

/-! ## Suggestions -/

/-- Whether the first text is not after the second in code-point order. -/
def notAfter (a b : String) : Bool := !decide (b < a)

/-- The words in code-point order. -/
def sorted (l : WordList) : Array String := (l.words.toList.mergeSort notAfter).toArray

/-- The first position from `low` on and below `high` at which ordered texts are not before `key`, by
halving; `high` if there is none. -/
def bisect (ws : Array String) (key : String) (low high : Nat) : Nat :=
  if low < high then
    let middle := (low + high) / 2
    if ws.getD middle "" < key then bisect ws key (middle + 1) high else bisect ws key low middle
  else low
termination_by high - low

/-- Whether a word starts with a key. -/
def startsWith (key w : String) : Bool := key.toList.isPrefixOf w.toList

/-- The words that start with `key`, in code-point order: those from its place on, up to the first that
does not. -/
def startingWith (l : WordList) (key : String) : List String :=
  let ws := l.sorted
  (ws.toList.drop (bisect ws key 0 ws.size)).takeWhile (startsWith key)

/-- The first words that start with what was typed, at most `limit` of them, with their places; none if
nothing was. -/
def search (l : WordList) (typed : String) (limit : Int) : List (String × WordIndex) :=
  let key := normalizeWord typed
  if key.isEmpty then []
  else ((l.startingWith key).take limit.toNat).filterMap fun w => (l.find? w).map fun i => (w, i)

/-- The only word that starts with what was typed, else what was typed if it is a word. -/
def complete (l : WordList) (typed : String) : Option String :=
  match l.search typed 2 with
  | [e] => some e.1
  | _ =>
    let key := normalizeWord typed
    if (l.find? key).isSome then some key else none

/-! ## English -/

theorem length_englishWords : englishWords.length = wordCount := by
  set_option maxRecDepth 20000 in decide

/-- The English list. -/
def english : WordList :=
  ⟨"english", ⟨englishWords.toArray, by rw [List.size_toArray, length_englishWords]⟩,
    nodup_englishWords⟩

end WordList

end Airgap
