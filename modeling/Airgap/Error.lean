import Airgap.Digest.Algorithm
import Airgap.Entropy.Source
import Airgap.Mnemonic.Scheme
import Airgap.Text.Surrogate

/-!
# What can go wrong

* `ErrorKind`: the classes of failure that a caller can tell apart, and their order.
* `Error`: the causes, each with the data that its message shows.
* `Error.kind`, `Error.message`: the class and the text of a cause.

A message shows every integer in full. A runtime may refuse to write integers of more than 4300 digits, as
long as that setting is not changed; a cause that has such an integer to show (`outcomeRange`,
`poolTooShort`, `notReady`, `sampleTooSmall`, `sampleTooShort`, `childIndexRange`) then ends in a plain
failure of class `value` instead.
-/

namespace Airgap

open Digest (Algorithm)
open Entropy (Source)
open Mnemonic (Scheme SeedVersion)

/-! ## Classes of failure -/

/-- The classes of failure. The first three are classes of classes. -/
inductive ErrorKind where
  /-- Any failure of the toolkit. -/
  | toolkit
  /-- The words, parameters or order of calls were at fault. -/
  | input
  /-- A derived value fell outside its valid range. -/
  | invariant
  | parameter
  | state
  | unknownWord
  | checksum
  | seedVersion
  | hardenedFromPublic
  | seed
  | childIndex
  /-- A value that names nothing or does not fit. -/
  | value
  /-- A position outside a sequence. -/
  | index
  /-- A number outside the width it is written in. -/
  | overflow
  /-- A text that cannot be encoded. -/
  | encoding
  /-- An operation on the wrong sort of thing. -/
  | type
  /-- More memory than there is. -/
  | memory
  /-- The input ended. -/
  | endOfInput
  deriving DecidableEq, Repr

namespace ErrorKind

/-- The next wider class. -/
def parent? : ErrorKind → Option ErrorKind
  | .input | .invariant => some .toolkit
  | .parameter | .state | .unknownWord | .checksum | .seedVersion | .hardenedFromPublic =>
    some .input
  | .seed | .childIndex => some .invariant
  | _ => none

/-- Whether a failure of this class is the caller's. -/
def isInput (k : ErrorKind) : Bool := k = .input || k.parent? = some .input

/-- Whether a failure of this class is a derived value's. -/
def isInvariant (k : ErrorKind) : Bool := k = .invariant || k.parent? = some .invariant

/-- Whether a failure of this class is one of the toolkit's own. -/
def isToolkit (k : ErrorKind) : Bool := k = .toolkit || k.isInput || k.isInvariant

/-- Whether a failure of this class is also about a value. -/
def isValue (k : ErrorKind) : Bool := k = .value || k = .parameter || k = .encoding

end ErrorKind

/-! ## Causes -/

/-- The families of names that a choice is made from. -/
inductive Family where
  | algorithm
  | scheme
  | seedVersion
  | keyKind
  deriving DecidableEq, Repr

/-- The name of a family in messages. -/
def Family.title : Family → String
  | .algorithm => "HashAlgorithm"
  | .scheme => "Scheme"
  | .seedVersion => "ElectrumVersion"
  | .keyKind => "KeyKind"

/-- Why a text is no base-58 numeral. -/
inductive Base58Fault where
  /-- A single character at a position is not ASCII. -/
  | notAscii (c : Char) (position : Nat)
  /-- The characters between two positions, both included, are not ASCII. -/
  | notAsciiRun (start stop : Nat)
  /-- A character is not in the alphabet. -/
  | badCharacter (c : Char)
  deriving DecidableEq, Repr

/-- The causes of failure. -/
inductive Error where
  /-- A failure that a caller reports in words of its own. -/
  | reported (kind : ErrorKind) (text : String)
  -- digests
  | unlisted (family : Family) (name : String)
  | digestSize (algorithm : Algorithm)
  | iterationCount
  | outputLength
  -- checksums
  | noPayload
  | checksumMismatch
  | base58 (fault : Base58Fault)
  -- texts
  | utf8 (fault : Utf8Fault)
  -- buffers
  | readOnlyBuffer
  | negativeCount
  | negativeLength
  | negativeSize
  | sizeWidth
  | outOfMemory
  -- positions and lengths
  | positionWidth
  | lengthWidth
  -- settings
  | unknownVersion (version : Int)
  | networkSetting (value : String)
  | schemeSetting (value : String)
  | logLevelSetting
  -- word lists
  | wordListSize (language : String) (count : Nat)
  | duplicateWords (language : String)
  | wordIndex
  | unknownWord (word : String) (position : Option Int)
  -- entropy
  | notInteger (source : Source)
  | outcomeRange (source : Source) (outcome : Int)
  | notBinary
  | poolIndex
  | bufferIndex
  | negativeBits
  | poolTooShort (bits requested : Int)
  | alignment
  | targetBits
  | correctionUnsupported (source : Source)
  | finalized
  | foreignSource (expected got : Source)
  | closed
  | notReady (bits target : Int)
  | compressIterations
  -- health tests
  | byteStringSize
  | sampleTooSmall (bits : Nat) (requested : Int)
  | sampleTooShort (bits : Int)
  | noSamples
  -- mnemonics
  | wrongScheme (mnemonic codec : Scheme)
  | bip39EntropySize (bits : Nat)
  | bip39EntropyBits
  | wordCount (scheme : Scheme) (count : Nat)
  | bip39Checksum
  | cannotGenerate (version : SeedVersion)
  | electrumEntropySize (bytes : Nat)
  | electrumWordCount
  | electrumEntropyShort (words needed : Nat)
  | searchExhausted
  | unknownSeedVersion
  -- curve
  | scalarRange
  | infinityEncoding
  | numberTooBig
  | numberNegative
  | coordinateRange
  | pointLength
  | offCurve
  | privateScalarRange
  | zeroPrivateKey
  -- key tree
  | childIndexRange (index : Int)
  | childNumberRange
  | pathComponent (component text : String)
  | numeralLength (digits : Nat)
  | seedLength (bytes : Nat)
  | invalidSeed
  | chainCodeLength
  | depthRange
  | parentFingerprintLength
  | privateKeyData
  | publicKeyData
  | noPrivateKey
  | extendedKeyLength (bytes : Nat)
  | masterFields
  | privateMarker
  | publicMarker
  | hardenedFromPublic (index : Int)
  | maximumDepth
  | invalidChild (index : Int) (hardened : Bool)
  -- session
  | endOfInput
  | notNumeral (text : String)
  deriving DecidableEq, Repr

/-! ## Texts -/

/-- At least eight upper-case hexadecimal digits of a number, a minus sign counted among them. -/
def hexVersion (n : Int) : String :=
  let digits := (Nat.toDigits 16 n.natAbs).map Char.toUpper
  if n < 0 then "-" ++ String.ofList (List.replicate (7 - digits.length) '0' ++ digits)
  else String.ofList (List.replicate (8 - digits.length) '0' ++ digits)

/-- The text of a fault in a base-58 numeral. -/
def Base58Fault.message : Base58Fault → String
  | .notAscii c position =>
    let escape := String.ofList (Text.hexEscape c)
    s!"'ascii' codec can't encode character '{escape}' in position {position}: " ++
      "ordinal not in range(128)"
  | .notAsciiRun start stop =>
    s!"'ascii' codec can't encode characters in position {start}-{stop}: " ++
      "ordinal not in range(128)"
  | .badCharacter c => "Invalid character " ++ Text.quoted (String.singleton c)

namespace Error

/-- The class of a cause. -/
def kind : Error → ErrorKind
  | .reported k _ => k
  | .unlisted .. | .digestSize _ | .negativeCount | .negativeLength | .negativeSize
  | .wordListSize .. | .duplicateWords _ | .negativeBits | .numeralLength _ | .notNumeral _ => .value
  | .readOnlyBuffer => .type
  | .wordIndex | .poolIndex | .bufferIndex | .positionWidth => .index
  | .numberTooBig | .numberNegative | .sizeWidth | .lengthWidth | .byteStringSize => .overflow
  | .utf8 _ => .encoding
  | .outOfMemory => .memory
  | .endOfInput => .endOfInput
  | .unknownWord .. => .unknownWord
  | .checksumMismatch | .bip39Checksum => .checksum
  | .unknownSeedVersion => .seedVersion
  | .hardenedFromPublic _ => .hardenedFromPublic
  | .invalidSeed => .seed
  | .invalidChild .. => .childIndex
  | .finalized | .closed | .notReady .. => .state
  | _ => .parameter

/-- The text of a cause. -/
def message : Error → String
  | .reported _ text => text
  | .unlisted family name => Text.quoted name ++ " is not a valid " ++ family.title
  | .digestSize a => s!"{a.name} digest must be {a.digestSize} bytes"
  | .iterationCount => "PBKDF2 iteration count must be at least 1"
  | .outputLength => "PBKDF2 output length must be at least 1"
  | .noPayload => "checksummed data needs at least 5 bytes"
  | .checksumMismatch => "double-SHA256 checksum does not match"
  | .base58 fault => "invalid base58 text: " ++ fault.message
  | .utf8 fault => fault.message
  | .readOnlyBuffer => "cannot wipe a read-only buffer"
  | .negativeCount => "negative count"
  | .negativeLength => "length argument must be non-negative"
  | .negativeSize => "negative argument not allowed"
  | .sizeWidth | .positionWidth => "cannot fit 'int' into an index-sized integer"
  | .lengthWidth => "Python int too large to convert to C ssize_t"
  | .outOfMemory => ""
  | .unknownVersion version => "unknown extended key version 0x" ++ hexVersion version
  | .networkSetting value => "SEEDKIT_NETWORK must be mainnet or testnet, got " ++ Text.quoted value
  | .schemeSetting value =>
    "SEEDKIT_DEFAULT_SCHEME must be bip39 or electrum, got " ++ Text.quoted value
  | .logLevelSetting => "SEEDKIT_LOG_LEVEL must be one of DEBUG, INFO, WARNING, ERROR, CRITICAL"
  | .wordListSize language count => s!"{language} wordlist has {count} words, expected 2048"
  | .duplicateWords language => s!"{language} wordlist contains duplicate words"
  | .wordIndex => "tuple index out of range"
  | .unknownWord word none => s!"unknown word '{word}'"
  | .unknownWord word (some position) => s!"unknown word '{word}' at position {position}"
  | .notInteger s => s!"{s.name} outcome must be an integer"
  | .outcomeRange s outcome =>
    s!"{s.name} outcome must be between {s.first} and {s.last}, got {outcome}"
  | .notBinary => "von_neumann expects 0/1 outcomes"
  | .poolIndex => "pool bit index out of range"
  | .bufferIndex => "bytearray index out of range"
  | .negativeBits => "__len__() should return >= 0"
  | .poolTooShort bits requested => s!"pool holds {bits} bits, {requested} requested"
  | .alignment => "align must be 'left' or 'right'"
  | .targetBits => "target_bits must be at least 1"
  | .correctionUnsupported s => s!"{s.name} does not support Von Neumann correction"
  | .finalized => "entropy collection is finalized; no more events accepted"
  | .foreignSource expected got => s!"collector expects {expected.name} events, got {got.name}"
  | .closed => "entropy collection was closed and wiped"
  | .notReady bits target => s!"entropy not ready: {bits}/{target} bits collected"
  | .compressIterations => "iterations must be at least 1"
  | .byteStringSize => "byte string is too large"
  | .sampleTooSmall bits requested => s!"sample has {bits} bits, {requested} requested"
  | .sampleTooShort bits => s!"sample of {bits} bits is too short; need at least 100"
  | .noSamples => "no samples to test"
  | .wrongScheme mnemonic codec => s!"{mnemonic.title} mnemonic passed to the {codec.title} codec"
  | .bip39EntropySize bits =>
    s!"BIP39 entropy must be one of (128, 160, 192, 224, 256) bits, got {bits}"
  | .bip39EntropyBits => "BIP39 entropy must be one of (128, 160, 192, 224, 256) bits"
  | .wordCount .bip39 count => s!"BIP39 mnemonics have 12, 15, 18, 21, 24 words, got {count}"
  | .wordCount .electrum count => s!"Electrum phrases have 12, 15, 18, 21, 24 words, got {count}"
  | .bip39Checksum => "BIP39 checksum does not match; check the words and their order"
  | .cannotGenerate version => s!"{version.name} seeds cannot be generated"
  | .electrumEntropySize bytes =>
    s!"Electrum entropy must be one of [17, 21, 25, 29, 33] bytes, got {bytes}"
  | .electrumWordCount => "Electrum word count must be one of (12, 15, 18, 21, 24)"
  | .electrumEntropyShort words needed => s!"{words} words need {needed} bytes of entropy"
  | .searchExhausted => "entropy ran out before a valid phrase was found; use different entropy"
  | .unknownSeedVersion => "phrase does not carry a known Electrum seed version"
  | .scalarRange => "scalar must fit in 256 bits"
  | .infinityEncoding => "the point at infinity has no encoding"
  | .numberTooBig => "int too big to convert"
  | .numberNegative => "can't convert negative int to unsigned"
  | .coordinateRange => "point x coordinate out of range"
  | .pointLength => "public key must be 33 (compressed) or 65 (uncompressed) bytes"
  | .offCurve => "public key is not on secp256k1"
  | .privateScalarRange => "private key must be in [1, n-1]"
  | .zeroPrivateKey => "zero is not a valid private key"
  | .childIndexRange index => s!"child index must be in [0, 2^31), got {index}"
  | .childNumberRange => "child number must fit in 32 bits"
  | .pathComponent component text =>
    "invalid path component " ++ Text.quoted component ++ " in " ++ Text.quoted text
  | .numeralLength digits =>
    s!"Exceeds the limit (4300 digits) for integer string conversion: value has {digits} digits; " ++
      "use sys.set_int_max_str_digits() to increase the limit"
  | .seedLength bytes => s!"seed must be 16-64 bytes, got {bytes}"
  | .invalidSeed => "seed produces an invalid master key; use a different seed"
  | .chainCodeLength => "chain code must be 32 bytes"
  | .depthRange => "depth must be in [0, 255]"
  | .parentFingerprintLength => "parent fingerprint must be 4 bytes"
  | .privateKeyData => "private key must be 32 bytes in [1, n-1]"
  | .publicKeyData => "public key must be a 33-byte compressed point"
  | .noPrivateKey => "public extended key has no private key"
  | .extendedKeyLength bytes => s!"extended key must be 78 bytes, got {bytes}"
  | .masterFields => "master key must have zero parent fingerprint and index"
  | .privateMarker => "private key data must start with 0x00"
  | .publicMarker => "public key data must be a compressed point"
  | .hardenedFromPublic index => s!"hardened child {index}' cannot be derived from a public key"
  | .maximumDepth => "maximum derivation depth reached"
  | .invalidChild index hardened =>
    let mark := if hardened then "'" else ""
    s!"child {index}{mark} yields an invalid key, use the next index"
  | .endOfInput => "EOF when reading a line"
  | .notNumeral text =>
    "invalid literal for int() with base 10: " ++
      String.ofList ((Text.quoted text).toList.take 200)

end Error

end Airgap
