/-!
# Splitting text

* `splitWhere p`: the pieces between the characters that satisfy `p`, empty pieces included.
* `isBlank`, `strip`, `fields`: blank characters, text without blanks at its ends, and the maximal
  runs of other characters.
-/

namespace Airgap.Text

/-- The pieces between the characters that satisfy `p`, always one more than there are such
characters. -/
def splitWhere {α : Type} (p : α → Bool) : List α → List (List α)
  | [] => [[]]
  | c :: cs =>
    if p c then [] :: splitWhere p cs
    else match splitWhere p cs with
      | [] => [[c]]
      | w :: ws => (c :: w) :: ws

theorem splitWhere_ne_nil {α : Type} (p : α → Bool) (cs : List α) : splitWhere p cs ≠ [] := by
  cases cs with
  | nil => exact List.cons_ne_nil _ _
  | cons c cs =>
    rw [splitWhere]
    split
    · exact List.cons_ne_nil _ _
    · split <;> exact List.cons_ne_nil _ _

/-- No piece holds a separator. -/
theorem not_of_mem_splitWhere {p : Char → Bool} {cs w : List Char} (hw : w ∈ splitWhere p cs)
    {c : Char} (hc : c ∈ w) : p c = false := by
  induction cs generalizing w with
  | nil =>
    rw [splitWhere, List.mem_singleton] at hw
    subst hw
    exact absurd hc List.not_mem_nil
  | cons a cs ih =>
    rw [splitWhere] at hw
    split at hw
    · rcases List.mem_cons.mp hw with rfl | h
      · exact absurd hc List.not_mem_nil
      · exact ih h hc
    · rename_i ha
      have ha : p a = false := by simpa using ha
      split at hw
      · rw [List.mem_singleton] at hw
        subst hw
        rw [List.mem_singleton.mp hc]
        exact ha
      · rename_i v vs he
        rcases List.mem_cons.mp hw with rfl | h
        · rcases List.mem_cons.mp hc with rfl | hc'
          · exact ha
          · exact ih (by rw [he]; exact List.mem_cons_self) hc'
        · exact ih (by rw [he]; exact List.mem_cons_of_mem _ h) hc

/-! ## Blanks -/

/-- Unicode white space and the four information separators U+001C to U+001F. -/
def isBlank (c : Char) : Bool :=
  let n := c.toNat
  (0x09 ≤ n && n ≤ 0x0D) || (0x1C ≤ n && n ≤ 0x20) || n == 0x85 || n == 0xA0 || n == 0x1680 ||
    (0x2000 ≤ n && n ≤ 0x200A) || n == 0x2028 || n == 0x2029 || n == 0x202F || n == 0x205F ||
    n == 0x3000

/-- The text without the blanks at its ends. -/
def strip (cs : List Char) : List Char :=
  ((cs.dropWhile isBlank).reverse.dropWhile isBlank).reverse

/-- The maximal runs of characters that are not blank. -/
def fields (cs : List Char) : List (List Char) :=
  (splitWhere isBlank cs).filter (!·.isEmpty)

/-- The texts with one space between neighbours. -/
def joinWords (ws : List (List Char)) : List Char := [' '].intercalate ws

end Airgap.Text
