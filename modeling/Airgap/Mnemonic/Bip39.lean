import Airgap.Digest.Pbkdf2
import Airgap.Mnemonic.Basic

/-!
# BIP39 mnemonics

Entropy of 128 to 256 bits is followed by one checksum bit for every 32, the first bits of its
SHA-256, and the whole is written in words of eleven bits.

* `encode`, `decode`, `accepts`.
* `toSeed`: stretches a phrase and a passphrase into the seed.
* `generate`: a mnemonic of fresh entropy.
-/

namespace Airgap.Mnemonic.Bip39

/-- The sizes of entropy in bits. -/
def entropyBits : List Nat := [128, 160, 192, 224, 256]

/-- What stands before the passphrase in the salt. -/
def saltStart : String := "mnemonic"

/-- Rounds of stretching. -/
def rounds : Nat := 2048

/-- Bytes of a seed. -/
def seedSize : Nat := 64

/-- The first `width` bits of the SHA-256 of the entropy, for a width of at most eight. -/
def checksum (entropy : Bytes) (width : Nat) : Nat :=
  ((Digest.sha256.hash entropy).headD 0).toNat >>> (8 - width)

/-- The mnemonic of the entropy. -/
def encode (l : WordList) (entropy : Bytes) : Except Error Mnemonic :=
  let bits := 8 * entropy.length
  if bits ∈ entropyBits then
    let width := bits / 32
    let value := (Bytes.toNat entropy <<< width) + checksum entropy width
    .ok (ofWords (l.wordsOf ((bits + width) / WordList.bitsPerWord) value) .bip39)
  else .error (.bip39EntropySize bits)

/-- The entropy of the number that `count` words write, if its checksum is behind it. -/
def decodeNumber (count value : Nat) : Except Error Bytes :=
  let bits := count * WordList.bitsPerWord
  let width := bits / 33
  let entropy := Bytes.ofNat ((bits - width) / 8) (value >>> width)
  if value % (1 <<< width) = checksum entropy width then .ok entropy else .error .bip39Checksum

/-- The entropy of the words of a mnemonic. -/
def decodeWords (l : WordList) (ws : List String) : Except Error Bytes :=
  if ws.length ∈ wordCounts then do decodeNumber ws.length (numeral (← l.indices ws))
  else .error (.wordCount .bip39 ws.length)

/-- The entropy of a mnemonic. -/
def decode (l : WordList) (input : Input) : Except Error Bytes := do
  decodeWords l (← input.mnemonic .bip39).words

/-- Whether an input is a mnemonic with a matching checksum. -/
def accepts (l : WordList) (input : Input) : Bool := (decode l input).isOk

/-- The seed of a mnemonic under a passphrase. Without `checked` the checksum may be wrong, but
every word must be listed. -/
def toSeed (l : WordList) (input : Input) (passphrase : String) (checked : Bool) (rounds : Int) :
    Except Error Bytes := do
  let m ← input.mnemonic .bip39
  if checked then discard (decodeWords l m.words) else discard (l.indices m.words)
  Digest.pbkdf2 .sha512 (Bytes.ofText (decomposed m.phrase))
    (Bytes.ofText (saltStart ++ decomposed passphrase)) rounds seedSize

/-- A fresh mnemonic of so many bits from a generator of byte strings of a given length. -/
def generate (l : WordList) (draw : Nat → Bytes) (bits : Int) : Except Error Mnemonic :=
  if bits.toNat ∈ entropyBits then encode l (draw (bits.toNat / 8))
  else .error .bip39EntropyBits

end Airgap.Mnemonic.Bip39
