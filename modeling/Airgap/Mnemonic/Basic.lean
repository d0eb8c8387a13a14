import Airgap.WordList.Basic

/-!
# Mnemonics

* `Mnemonic`: words in one spelling, tagged with their scheme.
* `Input`: what a codec accepts, and `Input.mnemonic`, the mnemonic that it stands for.
* `WordList.indices`, `numeral`, `wordsOf`: words as the digits of a number, eleven bits each.
-/

namespace Airgap

/-- Words of a phrase, each brought to its spelling, and the scheme that they belong to. -/
structure Mnemonic where
  words : List String
  scheme : Mnemonic.Scheme
  spelled : ∃ ws : List String, words = ws.map Mnemonic.normalizeWord
  deriving DecidableEq, Repr

namespace Mnemonic

/-- The mnemonic of the words, each brought to its spelling. -/
def ofWords (ws : List String) (scheme : Scheme) : Mnemonic :=
  ⟨ws.map normalizeWord, scheme, ws, rfl⟩

/-- The mnemonic of a typed phrase. -/
def ofPhrase (text : String) (scheme : Scheme) : Mnemonic := ofWords (splitPhrase text) scheme

/-- The words with one space between neighbours. -/
def phrase (m : Mnemonic) : String := " ".intercalate m.words

/-- A description that shows no word. -/
def summary (m : Mnemonic) : String := s!"Mnemonic({m.scheme.title}, {m.words.length} words)"

/-- What a codec accepts: a typed phrase, typed words, or a mnemonic. -/
inductive Input where
  | phrase (text : String)
  | words (ws : List String)
  | ready (m : Mnemonic)
  deriving DecidableEq, Repr

/-- The mnemonic of a scheme that an input stands for; a mnemonic of the other scheme is refused. -/
def Input.mnemonic (scheme : Scheme) : Input → Except Error Mnemonic
  | .phrase text => .ok (ofPhrase text scheme)
  | .words ws => .ok (ofWords (ws.map normalizeWord) scheme)
  | .ready m => if m.scheme = scheme then .ok m else .error (.wrongScheme m.scheme scheme)

/-! ## Words as digits -/

/-- The number that word places write, most significant first. -/
def numeral (is : List WordIndex) : Nat := is.foldl (fun n i => wordCount * n + i.val) 0

/-- The `count` low digits of a number in base 2048, most significant first. -/
def placesOf : Nat → Nat → List WordIndex
  | 0, _ => []
  | count + 1, n => placesOf count (n / wordCount) ++ [Fin.ofNat wordCount n]

theorem length_placesOf (count n : Nat) : (placesOf count n).length = count := by
  induction count generalizing n with
  | zero => rfl
  | succ count ih => rw [placesOf, List.length_append, ih]; rfl

/-- How many phrases of `count` words there are, `2048 ^ count`. -/
def phrases (count : Nat) : Nat := Nat.pow wordCount count

theorem phrases_succ (count : Nat) : phrases (count + 1) = wordCount * phrases count :=
  Nat.mul_comm _ _

theorem phrases_pos (count : Nat) : 0 < phrases count := Nat.pow_pos (by decide)

theorem numeral_placesOf (count n : Nat) : numeral (placesOf count n) = n % phrases count := by
  induction count generalizing n with
  | zero => rw [placesOf, show phrases 0 = 1 from rfl, Nat.mod_one]; rfl
  | succ count ih =>
    have h := ih (n / wordCount)
    simp only [numeral, placesOf, List.foldl_append, List.foldl_cons, List.foldl_nil] at h ⊢
    rw [h, phrases_succ, Nat.mod_mul]
    simp only [Fin.ofNat]
    omega

end Mnemonic

/-- The places of the words of a phrase, or the first word that is not listed. -/
def WordList.indices (l : WordList) (ws : List String) : Except Error (List Airgap.WordIndex) :=
  ws.zipIdx.mapM fun p => l.index p.1 (some p.2)

/-- The words of the `count` low digits of a number. -/
def WordList.wordsOf (l : WordList) (count n : Nat) : List String :=
  (Mnemonic.placesOf count n).map l.word

end Airgap
