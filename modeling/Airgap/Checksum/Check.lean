import Airgap.Checksum.Base58

/-!
# Checksums

* `checksum`: four bytes of double SHA-256; `append` puts them behind a payload and `verify` takes
  them off again.
* `encode`, `decode`: a payload with its checksum as base-58 text (Base58Check).
-/

namespace Airgap.Checksum

/-- Bytes in a checksum. -/
def size : Nat := 4

/-- The first bytes of the double SHA-256. -/
def checksum (payload : Bytes) : Bytes := (Digest.doubleSha256 payload).take size

theorem length_checksum (payload : Bytes) : (checksum payload).length = size := by
  rw [checksum, List.length_take, Digest.length_doubleSha256]
  rfl

/-- A payload with its checksum behind it. -/
def append (payload : Bytes) : Bytes := payload ++ checksum payload

/-- The payload in front of a matching checksum; there must be room for a payload. -/
def verify (data : Bytes) : Except Error Bytes :=
  if data.length ≤ size then .error .noPayload
  else
    let payload := data.take (data.length - size)
    if checksum payload = data.drop (data.length - size) then .ok payload
    else .error .checksumMismatch

theorem verify_append {payload : Bytes} (h : payload ≠ []) :
    verify (append payload) = .ok payload := by
  have hl := length_checksum payload
  have hp : 0 < payload.length := List.length_pos_iff.mpr h
  have ha : (append payload).length = payload.length + size := by
    rw [append, List.length_append, hl]
  rw [verify, if_neg (by omega), ha, Nat.add_sub_cancel]
  simp only [append, List.take_left', List.drop_left', if_true]

/-- The Base58Check text of a payload. -/
def encode (payload : Bytes) : String := String.ofList (Base58.encode (append payload))

/-- The payload of a Base58Check text, blanks at its ends left out. -/
def decode (text : String) : Except Error Bytes :=
  match Base58.decode (Text.strip text.toList) with
  | .error fault => .error (.base58 fault)
  | .ok data => verify data

end Airgap.Checksum
