/-!
# Ranges of code points

A property of characters is given by the ranges of code points that have it.
-/

namespace Airgap.Text

/-- The code points from `first` to `last`, both included. -/
structure CodeRange where
  first : Nat
  last : Nat
  deriving DecidableEq, Repr

namespace CodeRange

/-- Whether a character lies in the range. -/
def contains (r : CodeRange) (c : Char) : Bool := r.first ≤ c.toNat && c.toNat ≤ r.last

/-- Whether a character lies in one of the ranges. -/
def any (rs : List CodeRange) (c : Char) : Bool := rs.any (·.contains c)

theorem contains_iff {r : CodeRange} {c : Char} :
    r.contains c = true ↔ r.first ≤ c.toNat ∧ c.toNat ≤ r.last := by
  simp only [contains, Bool.and_eq_true, decide_eq_true_eq]

theorem any_iff {rs : List CodeRange} {c : Char} :
    any rs c = true ↔ ∃ r ∈ rs, r.first ≤ c.toNat ∧ c.toNat ≤ r.last := by
  simp only [any, List.any_eq_true, contains_iff]

end CodeRange

end Airgap.Text
