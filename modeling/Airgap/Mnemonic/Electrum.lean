import Airgap.Mnemonic.Bip39

/-!
# Electrum mnemonics

A phrase carries no checksum. Its hash under a fixed key starts with the tag of its version, and a
phrase is made by counting up from the entropy to the first number whose phrase has the wanted tag
and is not also a BIP39 mnemonic.

* `versionHash`, `seedVersion`.
* `search`, `generate`: the first suitable phrase at or after the entropy.
* `decode`, `accepts`, `toSeed`.
-/

namespace Airgap.Mnemonic.Electrum

/-- The key of the hash that carries the version. -/
def versionKey : Bytes := Bytes.ofText "Seed version"

/-- What stands before the passphrase in the salt. -/
def saltStart : String := "electrum"

/-- Rounds of stretching. -/
def rounds : Nat := 2048

/-- Bytes that hold the entropy of so many words. -/
def entropySize (words : Int) : Int := (words * WordList.bitsPerWord + 7) / 8

/-- The hash that carries the version of a phrase. -/
def versionHash (phrase : String) : Bytes :=
  (Digest.hmac .sha512 versionKey (Bytes.ofText (electrumNormalize phrase))).value

/-- Whether a hash starts with the tag of a version. -/
def hasTag (hash : Bytes) (v : SeedVersion) : Bool :=
  v.tag.toList.isPrefixOf (Bytes.toHex hash).toList

/-- The version that a hash carries, if any. -/
def versionOf (hash : Bytes) : Option SeedVersion := SeedVersion.all.find? (hasTag hash)

/-- The version of the words of a mnemonic, if it has one; every word must be listed. -/
def wordsVersion (l : WordList) (m : Mnemonic) : Except Error (Option SeedVersion) := do
  discard (l.indices m.words)
  return versionOf (versionHash m.phrase)

/-- The version of a mnemonic, if it has one. -/
def seedVersion (l : WordList) (input : Input) : Except Error (Option SeedVersion) := do
  wordsVersion l (← input.mnemonic .electrum)

/-- The phrase of `count` words for a number. -/
def phraseOf (l : WordList) (count n : Nat) : String := " ".intercalate (l.wordsOf count n)

/-- Whether the phrase of a number has the tag and is no BIP39 mnemonic. -/
def isSuitable (l : WordList) (v : SeedVersion) (count n : Nat) : Bool :=
  let phrase := phraseOf l count n
  hasTag (versionHash phrase) v && !Bip39.accepts l (.phrase phrase)

/-- The first suitable number among the `left` numbers from `n` on, and how many were passed over
after `passed` before. -/
def search (l : WordList) (v : SeedVersion) (count : Nat) : Nat → Nat → Nat → Option (Nat × Nat)
  | 0, _, _ => none
  | left + 1, n, passed =>
    if isSuitable l v count n then some (n, passed) else search l v count left (n + 1) (passed + 1)

/-- The word count and the bytes that are used of the entropy. Without a count the size of the
entropy decides it; with one the trailing bytes are taken. -/
def chooseCount (entropy : Bytes) : Option Int → Except Error (Nat × Bytes)
  | none =>
    match wordCounts.find? fun (n : Nat) => entropySize n = entropy.length with
    | some n => .ok (n, entropy)
    | none => .error (.electrumEntropySize entropy.length)
  | some count =>
    if count.toNat ∈ wordCounts then
      let needed := (entropySize count).toNat
      if entropy.length < needed then .error (.electrumEntropyShort count.toNat needed)
      else .ok (count.toNat, entropy.drop (entropy.length - needed))
    else .error .electrumWordCount

/-- The first mnemonic of a version at or after the entropy, and how many numbers were passed over.
Spare leading bits of the entropy are dropped. -/
def generate (l : WordList) (v : SeedVersion) (entropy : Bytes) (count : Option Int) :
    Except Error (Mnemonic × Nat) := do
  if !v.canGenerate then throw (.cannotGenerate v)
  let (count, used) ← chooseCount entropy count
  let limit := phrases count
  let start := Bytes.toNat used % limit
  match search l v count (limit - start) start 0 with
  | some (n, passed) => return (ofWords (l.wordsOf count n) .electrum, passed)
  | none => throw .searchExhausted

/-- The entropy of a mnemonic's words. -/
def decodeMnemonic (l : WordList) (m : Mnemonic) : Except Error Bytes :=
  if m.words.length ∈ wordCounts then do
    let value := numeral (← l.indices m.words)
    match ← wordsVersion l m with
    | none => throw .unknownSeedVersion
    | some _ => return Bytes.ofNat (entropySize m.words.length).toNat value
  else .error (.wordCount .electrum m.words.length)

/-- The entropy of a mnemonic. -/
def decode (l : WordList) (input : Input) : Except Error Bytes := do
  decodeMnemonic l (← input.mnemonic .electrum)

/-- Whether an input is a mnemonic of some version. -/
def accepts (l : WordList) (input : Input) : Bool := (decode l input).isOk

/-- The seed of a mnemonic under a passphrase. Without `checked` any words will do. -/
def toSeed (l : WordList) (input : Input) (passphrase : String) (checked : Bool) (rounds : Int) :
    Except Error Bytes := do
  let m ← input.mnemonic .electrum
  if checked then discard (decodeMnemonic l m)
  Digest.pbkdf2 .sha512 (Bytes.ofText (electrumNormalize m.phrase))
    (Bytes.ofText (saltStart ++ electrumNormalize passphrase)) rounds Bip39.seedSize

end Airgap.Mnemonic.Electrum
