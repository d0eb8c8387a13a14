import Airgap.Text.CombiningClass
import Airgap.Text.Decomposition

/-!
# Compatibility decomposition (NFKD)

* `decompose`: the full decomposition of one character; a Hangul syllable becomes its jamo.
* `reorder`: each run of marks sorted by combining class, equal classes in their order.
* `nfkd`: the decomposed text, reordered.
-/

namespace Airgap.Text

/-- The jamo of the `s`-th Hangul syllable. -/
def hangulJamo (s : Nat) : List Char :=
  let lead := Char.ofNat (0x1100 + s / 588)
  let vowel := Char.ofNat (0x1161 + s % 588 / 28)
  if s % 28 = 0 then [lead, vowel] else [lead, vowel, Char.ofNat (0x11A7 + s % 28)]

/-- The full compatibility decomposition of a character. -/
def decompose (c : Char) : List Char :=
  if c.toNat < 0x80 then [c]
  else if 0xAC00 ≤ c.toNat ∧ c.toNat ≤ 0xD7A3 then hangulJamo (c.toNat - 0xAC00)
  else match decompositions.lookup c.toNat with
    | some ns => ns.map Char.ofNat
    | none => [c]

/-- Puts `c` in front of a reordered text: a mark moves behind the marks of lower class. -/
def insertMark (c : Char) : List Char → List Char
  | [] => [c]
  | x :: xs =>
    if combiningClass x ≠ 0 ∧ combiningClass x < combiningClass c then x :: insertMark c xs
    else c :: x :: xs

/-- Each run of marks of non-zero class, stably sorted by class. -/
def reorder (cs : List Char) : List Char := cs.foldr insertMark []

/-- The compatibility decomposition of a text. -/
def nfkd (cs : List Char) : List Char := reorder (cs.flatMap decompose)

theorem insertMark_perm (c : Char) (cs : List Char) : (insertMark c cs).Perm (c :: cs) := by
  induction cs with
  | nil => exact List.Perm.refl _
  | cons x xs ih =>
    rw [insertMark]
    split
    · exact (ih.cons x).trans (List.Perm.swap c x xs)
    · exact List.Perm.refl _

/-- Reordering loses nothing. -/
theorem reorder_perm (cs : List Char) : (reorder cs).Perm cs := by
  induction cs with
  | nil => exact List.Perm.refl _
  | cons c cs ih => exact (insertMark_perm c (reorder cs)).trans (ih.cons c)

end Airgap.Text
