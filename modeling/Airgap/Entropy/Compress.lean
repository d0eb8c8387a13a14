import Airgap.Digest.Pbkdf2

/-!
# Compressed entropy

* `Salt`: bytes, or a text that is hashed in UTF-8.
* `compress`: stretches or shrinks collected bytes to a number of bits.
-/

namespace Airgap.Entropy

/-- A salt, as bytes or as a text. -/
inductive Salt where
  | bytes (bs : Bytes)
  | text (t : RawText)
  deriving DecidableEq, Repr

/-- The bytes of a salt; of a text, those of its UTF-8 encoding. -/
def Salt.toBytes : Salt → Except Error Bytes
  | bytes bs => .ok bs
  | text t => t.encode.mapError .utf8

/-- Exactly `target` bits derived from entropy by PBKDF2; the spare bits of the last byte are
zero. -/
def compress (entropy : Bytes) (target iterations : Int) (salt : Salt) : Except Error Bytes := do
  if target < 1 then throw .targetBits
  if iterations < 1 then throw .compressIterations
  let bytes ← Digest.pbkdf2 .sha512 entropy (← salt.toBytes) iterations ((target + 7) / 8)
  if target % 8 = 0 then return bytes
  else
    let mask := 0xFF <<< UInt8.ofNat (8 - (target % 8).toNat)
    return bytes.modify (bytes.length - 1) (· &&& mask)

end Airgap.Entropy
