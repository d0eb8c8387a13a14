import Airgap.Error

/-!
# Child numbers

A step of a derivation path is an index below `2 ^ 31` and a hardened flag; as one number the flag
is the top bit of 32.
-/

namespace Airgap.KeyTree

/-- The first hardened child number. -/
abbrev hardenedOffset : Nat := 0x80000000

/-- The first number of more than 32 bits. -/
abbrev numberLimit : Nat := 0x100000000

/-- An index below `2 ^ 31` and whether the step is hardened. -/
structure ChildNumber where
  index : Nat
  hardened : Bool
  index_lt : index < hardenedOffset
  deriving DecidableEq

namespace ChildNumber

/-- The step of an index, if it is in range. -/
def ofIndex (index : Int) (hardened : Bool) : Except Error ChildNumber :=
  if h : 0 ≤ index ∧ index < hardenedOffset then .ok ⟨index.toNat, hardened, by omega⟩
  else .error (.childIndexRange index)

/-- The step of a 32-bit child number. -/
def ofRaw (number : Int) : Except Error ChildNumber :=
  if 0 ≤ number ∧ number < numberLimit then
    .ok ⟨number.toNat % hardenedOffset, decide (hardenedOffset ≤ number.toNat),
      Nat.mod_lt _ (by decide)⟩
  else .error .childNumberRange

/-- The step that an integer stands for: a child number if it has the top bit, else an index. -/
def ofInteger (index : Int) (hardened : Bool) : Except Error ChildNumber :=
  if hardenedOffset ≤ index then ofRaw index else ofIndex index hardened

/-- The 32-bit child number of a step. -/
def raw (c : ChildNumber) : Nat := if c.hardened then c.index + hardenedOffset else c.index

/-- The index, with a mark behind it if the step is hardened. -/
def text (c : ChildNumber) : String := if c.hardened then s!"{c.index}'" else s!"{c.index}"

theorem raw_lt (c : ChildNumber) : c.raw < numberLimit := by
  have h := c.index_lt
  rw [raw]
  simp only [hardenedOffset, numberLimit] at h ⊢
  split <;> omega

theorem ofRaw_raw (c : ChildNumber) : ofRaw c.raw = .ok c := by
  obtain ⟨index, hardened, h⟩ := c
  have hr := raw_lt ⟨index, hardened, h⟩
  rw [ofRaw, if_pos (by omega)]
  cases hardened
  · simp only [raw, Bool.false_eq_true, if_false, Int.toNat_natCast, Nat.mod_eq_of_lt h,
      decide_eq_false (Nat.not_le.mpr h)]
  · simp only [raw, if_true, Int.toNat_natCast, Nat.add_mod_right, Nat.mod_eq_of_lt h,
      decide_eq_true (Nat.le_add_left _ _)]

end ChildNumber

end Airgap.KeyTree
