import Airgap.Digest.Hmac
import Airgap.Width

/-!
# PBKDF2 with HMAC (RFC 8018)

* `chain`: the exclusive or of the iterated codes of one block.
* `extend`: one block after the other; the number of each is written in four bytes, and the first that
  does not fit is refused.
* `pbkdf2`: as many blocks as the output needs, cut to its length.
-/

namespace Airgap.Digest

/-- The exclusive or of `acc` with the next `n` codes, each the code of the one before, from `u`. -/
def chain {a : Algorithm} (keyed : Hmac a) : Nat → Bytes → Bytes → Bytes
  | 0, _, acc => acc
  | n + 1, u, acc =>
    let v := (keyed.update u).digest
    chain keyed n v (Bytes.xor acc v)

/-- The `i`-th block of output, counted from one: the exclusive or of `iterations` codes. -/
def pbkdf2Block {a : Algorithm} (keyed : Hmac a) (salt : Bytes) (iterations i : Nat) :
    Except Error Bytes := do
  let u := (keyed.update (salt ++ (← fixedBytes 4 i))).digest
  return chain keyed (iterations - 1) u u

/-- The output so far with `left` more blocks behind it, the first of them with number `i`. -/
def extend {a : Algorithm} (keyed : Hmac a) (salt : Bytes) (iterations : Nat) :
    Nat → Nat → Bytes → Except Error Bytes
  | 0, _, out => .ok out
  | left + 1, i, out => do
    extend keyed salt iterations left (i + 1) (out ++ (← pbkdf2Block keyed salt iterations i))

/-- `length` bytes derived from a password and a salt. -/
def pbkdf2 (a : Algorithm) (password salt : Bytes) (iterations length : Int) :
    Except Error Bytes := do
  if iterations < 1 then throw .iterationCount
  if length < 1 then throw .outputLength
  let keyed := Hmac.ofKey a password
  let blocks := (length.toNat + a.digestSize - 1) / a.digestSize
  let out ← extend keyed salt iterations.toNat blocks 1 []
  return out.take length.toNat

end Airgap.Digest
