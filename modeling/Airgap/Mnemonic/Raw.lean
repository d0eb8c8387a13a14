import Airgap.Mnemonic.Codec
import Airgap.Text.Surrogate

/-!
# Decoding texts with surrogates

Words and phrases may hold surrogates, and so may the words of a list. They are spelled, looked up and
decoded as texts without any; only Electrum, which hashes the phrase, has no encoding of them to hash.

* `RawText.normalizeWord`, `RawText.splitPhrase`, `RawText.electrumNormalize`: the spellings.
* `RawWordList`, `RawMnemonic`, `RawInput`: as `WordList`, `Mnemonic` and `Mnemonic.Input`.
* `RawFailure`: what can go wrong, where a message may show a word with surrogates.
* `RawCodec.decode`, `RawCodec.validate`.
-/

namespace Airgap

/-! ## Spelling -/

namespace RawText

/-- The decomposed text, without invisible characters. -/
def decomposed (t : RawText) : RawText := mapRuns Text.nfkd (mapRuns Mnemonic.visible t)

/-- The spelling of one word. -/
def normalizeWord (t : RawText) : RawText := mapRuns Text.fold (strip t.decomposed)

/-- The words of a phrase, in one spelling and with one space between them. -/
def normalizePhrase (t : RawText) : RawText := joinWords (fields (mapRuns Text.fold t.decomposed))

/-- The words of a typed phrase. -/
def splitPhrase (t : RawText) : List RawText :=
  if t.strip.isEmpty then [] else Text.splitWhere (· == .char ' ') t.normalizePhrase

/-- Whether there is a code point and it is an ideograph. -/
def facesIdeograph : Option CodePoint → Bool
  | some c => c.holds Mnemonic.isIdeograph
  | none => false

/-- The text that follows the code point `before`, without the blanks between two ideographs. -/
def closeUp (before : Option CodePoint) : RawText → RawText
  | [] => []
  | c :: t =>
    if c.isBlank && facesIdeograph before && facesIdeograph t.head? then closeUp (some c) t
    else c :: closeUp (some c) t

/-- The form of a phrase that Electrum hashes. -/
def electrumNormalize (t : RawText) : RawText :=
  closeUp none (joinWords (fields (mapRuns Mnemonic.stripMarks (mapRuns Text.lower t.decomposed))))

end RawText

/-! ## Words -/

/-- The ways in which reading a text with surrogates fails. -/
inductive RawFailure where
  | plain (e : Error)
  | unknownWord (word : RawText) (position : Option Int)
  deriving DecidableEq, Repr

namespace RawFailure

/-- The class of a failure. -/
def kind : RawFailure → ErrorKind
  | plain e => e.kind
  | unknownWord .. => .unknownWord

/-- The text of a failure. -/
def message : RawFailure → RawText
  | plain e => .ofString e.message
  | unknownWord w none => .ofString "unknown word '" ++ w ++ .ofString "'"
  | unknownWord w (some position) =>
    .ofString "unknown word '" ++ w ++ .ofString s!"' at position {position}"

end RawFailure

/-- An ordered list of 2048 different words that may hold surrogates. -/
structure RawWordList where
  language : String
  words : Vector RawText wordCount
  nodup : words.toList.Nodup

namespace RawWordList

/-- The list of the given words. -/
def ofWords (language : String) (ws : List RawText) : Except Error RawWordList :=
  if hl : ws.length = wordCount then
    if hn : ws.Nodup then
      .ok ⟨language, ⟨ws.toArray, by rw [List.size_toArray, hl]⟩, hn⟩
    else .error (.duplicateWords language)
  else .error (.wordListSize language ws.length)

/-- The word at a place. -/
def word (l : RawWordList) (i : WordIndex) : RawText := l.words.get i

/-- The place of a typed word. -/
def lookup? (l : RawWordList) (typed : RawText) : Option WordIndex :=
  l.words.findFinIdx? (· == typed.normalizeWord)

/-- The place of a typed word; the position in its phrase is for the message. -/
def index (l : RawWordList) (typed : RawText) (position : Option Int) :
    Except RawFailure WordIndex :=
  match l.lookup? typed with
  | some i => .ok i
  | none => .error (.unknownWord typed position)

/-- The places of the words that are listed, and the positions and words that are not. -/
def resolve (l : RawWordList) (typed : List RawText) : List WordIndex × List (Nat × RawText) :=
  (typed.filterMap l.lookup?,
    (typed.zipIdx.filter fun p => (l.lookup? p.1).isNone).map fun p => (p.2, p.1))

/-- The places of the words of a phrase, or the first word that is not listed. -/
def indices (l : RawWordList) (ws : List RawText) : Except RawFailure (List WordIndex) :=
  ws.zipIdx.mapM fun p => l.index p.1 (some p.2)

end RawWordList

/-! ## Mnemonics -/

/-- Words of a phrase, each brought to its spelling, and the scheme that they belong to. -/
structure RawMnemonic where
  words : List RawText
  scheme : Mnemonic.Scheme
  spelled : ∃ ws : List RawText, words = ws.map RawText.normalizeWord

namespace RawMnemonic

/-- The mnemonic of the words, each brought to its spelling. -/
def ofWords (ws : List RawText) (scheme : Mnemonic.Scheme) : RawMnemonic :=
  ⟨ws.map RawText.normalizeWord, scheme, ws, rfl⟩

/-- The words with one space between neighbours. -/
def phrase (m : RawMnemonic) : RawText := RawText.joinWords m.words

end RawMnemonic

/-- What a codec accepts: a typed phrase, typed words, or a mnemonic. -/
inductive RawInput where
  | phrase (text : RawText)
  | words (ws : List RawText)
  | ready (m : RawMnemonic)

/-- The mnemonic of a scheme that an input stands for; a mnemonic of the other scheme is refused. -/
def RawInput.mnemonic (scheme : Mnemonic.Scheme) : RawInput → Except RawFailure RawMnemonic
  | phrase text => .ok (.ofWords text.splitPhrase scheme)
  | words ws => .ok (.ofWords (ws.map RawText.normalizeWord) scheme)
  | ready m => if m.scheme = scheme then .ok m else .error (.plain (.wrongScheme m.scheme scheme))

/-! ## Codecs -/

/-- A scheme with its word list. -/
structure RawCodec where
  scheme : Mnemonic.Scheme
  words : RawWordList

namespace RawCodec

open Mnemonic (Bip39.decodeNumber Electrum.entropySize Electrum.versionKey Electrum.versionOf
  SeedVersion numeral wordCounts)

/-- The hash that carries the version of a phrase. -/
def versionHash (phrase : RawText) : Except RawFailure Bytes := do
  let encoded ← phrase.electrumNormalize.encode.mapError fun fault => .plain (.utf8 fault)
  return (Digest.hmac .sha512 Electrum.versionKey encoded).value

/-- The version of the words of a mnemonic, if it has one; every word must be listed. -/
def wordsVersion (l : RawWordList) (m : RawMnemonic) : Except RawFailure (Option SeedVersion) := do
  discard (l.indices m.words)
  return Electrum.versionOf (← versionHash m.phrase)

/-- The entropy of a mnemonic. -/
def decode (c : RawCodec) (input : RawInput) : Except RawFailure Bytes := do
  let m ← input.mnemonic c.scheme
  let count := m.words.length
  if count ∈ wordCounts then
    let value := numeral (← c.words.indices m.words)
    match c.scheme with
    | .bip39 => (Bip39.decodeNumber count value).mapError .plain
    | .electrum =>
      match ← wordsVersion c.words m with
      | none => .error (.plain .unknownSeedVersion)
      | some _ => return Bytes.ofNat (Electrum.entropySize count).toNat value
  else .error (.plain (.wordCount c.scheme count))

/-- Whether an input decodes. -/
def accepts (c : RawCodec) (input : RawInput) : Bool := (c.decode input).isOk

/-- Whether an input decodes, where only a failure that is the caller's counts as an answer. -/
def validate (c : RawCodec) (input : RawInput) : Except RawFailure Bool :=
  match c.decode input with
  | .ok _ => .ok true
  | .error e => if e.kind.isInput then .ok false else .error e

end RawCodec

end Airgap
