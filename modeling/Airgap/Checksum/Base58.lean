import Airgap.Error
import Airgap.Text.Split

/-!
# Base-58 text

A byte string is written as its number in base 58 after one `1` for each leading zero byte.

* `digits`, `ofDigits`: the digits of a number, most significant first, none for zero.
* `Base58.encode`, `Base58.decode`.
-/

namespace Airgap.Checksum

/-- The digits of a number in base 58, most significant first, in front of further digits. -/
def digitsOnto (n : Nat) (rest : List Nat) : List Nat :=
  if n = 0 then rest else digitsOnto (n / 58) (n % 58 :: rest)
termination_by n

/-- The digits of a number in base 58, most significant first; zero has none. -/
def digits (n : Nat) : List Nat := digitsOnto n []

/-- The number that base-58 digits write. -/
def ofDigits (ds : List Nat) : Nat := ds.foldl (fun n d => 58 * n + d) 0

theorem digitsOnto_eq (n : Nat) (rest : List Nat) : digitsOnto n rest = digits n ++ rest := by
  induction n using Nat.strongRecOn generalizing rest with
  | ind n ih =>
    have onto (r : List Nat) : digitsOnto n r =
        if n = 0 then r else digitsOnto (n / 58) (n % 58 :: r) := by rw [digitsOnto]
    rw [digits, onto, onto []]
    split
    · rfl
    · rename_i h
      rw [ih (n / 58) (by omega), ih (n / 58) (by omega) [n % 58], List.append_assoc]
      rfl

@[simp] theorem digits_zero : digits 0 = [] := by rw [digits, digitsOnto]; rfl

/-- The lowest digit comes last. -/
theorem digits_of_pos {n : Nat} (h : 0 < n) : digits n = digits (n / 58) ++ [n % 58] := by
  rw [digits, digitsOnto, if_neg (by omega), digitsOnto_eq]

theorem ofDigits_digits (n : Nat) : ofDigits (digits n) = n := by
  induction n using Nat.strongRecOn with
  | ind n ih =>
    by_cases h : n = 0
    · rw [h, digits_zero]
      rfl
    · have hn := ih (n / 58) (by omega)
      rw [digits_of_pos (by omega)]
      simp only [ofDigits, List.foldl_append, List.foldl_cons, List.foldl_nil] at hn ⊢
      rw [hn]
      omega

namespace Base58

/-- The digits, without the ones that are easily confused. -/
def alphabet : List Char := [
  '1', '2', '3', '4', '5', '6', '7', '8', '9', 'A', 'B', 'C', 'D', 'E', 'F', 'G', 'H', 'J', 'K',
  'L', 'M', 'N', 'P', 'Q', 'R', 'S', 'T', 'U', 'V', 'W', 'X', 'Y', 'Z', 'a', 'b', 'c', 'd', 'e',
  'f', 'g', 'h', 'i', 'j', 'k', 'm', 'n', 'o', 'p', 'q', 'r', 's', 't', 'u', 'v', 'w', 'x', 'y',
  'z']

/-- The character of a digit. -/
def digitChar (d : Nat) : Char := alphabet.getD d '1'

/-- The digit of a character. -/
def digitValue? (c : Char) : Option Nat := alphabet.idxOf? c

/-- The text of a byte string. -/
def encode (bs : Bytes) : List Char :=
  let zeros := bs.takeWhile (· == 0)
  zeros.map (fun _ => '1') ++ (digits (Bytes.toNat bs)).map digitChar

/-- The fault of the first characters that are not ASCII, if there are any. -/
def asciiFault? (cs : List Char) : Option Base58Fault :=
  let good := cs.takeWhile (·.toNat < 0x80)
  match cs.dropWhile (·.toNat < 0x80) with
  | [] => none
  | c :: rest =>
    match rest.takeWhile (0x80 ≤ ·.toNat) with
    | [] => some (.notAscii c good.length)
    | more => some (.notAsciiRun good.length (good.length + more.length))

/-- The digits of a text, or its first character that is none. -/
def readDigits : List Char → Except Base58Fault (List Nat)
  | [] => .ok []
  | c :: cs =>
    match digitValue? c with
    | none => .error (.badCharacter c)
    | some d => do return d :: (← readDigits cs)

/-- The byte string of a text. -/
def decode (cs : List Char) : Except Base58Fault Bytes :=
  match asciiFault? cs with
  | some fault => .error fault
  | none => do
    let ones := cs.takeWhile (· == '1')
    let ds ← readDigits (cs.dropWhile (· == '1'))
    return ones.map (fun _ => 0) ++ Bytes.minimal (ofDigits ds)

end Base58

end Airgap.Checksum
