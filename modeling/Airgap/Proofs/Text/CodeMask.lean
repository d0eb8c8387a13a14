import Airgap.Text.CaseMap
import Mathlib.Data.Nat.Notation

/-!
# Sets of code points as bits

A table with thousands of code points is searched by its bits: one number stands for the whole set, and
`Nat.testBit` asks for a member.

* `codeMask`: the set of the members of some lists, with `testBit_codeMask`.
* `CodeRange.members`, `CaseRun.members`: the code points that a range or a run stands for.
-/

namespace Airgap.Text

/-- The bits of a list of code points. -/
def listMask (ns : List ℕ) : ℕ := ns.foldr (fun n mask => mask ||| 1 <<< n) 0

/-- The bits of several lists of code points. -/
def codeMask (lists : List (List ℕ)) : ℕ := lists.foldr (fun ns mask => listMask ns ||| mask) 0

theorem testBit_listMask {ns : List ℕ} {n : ℕ} : (listMask ns).testBit n = true ↔ n ∈ ns := by
  induction ns with
  | nil => simp [listMask]
  | cons m ns ih =>
    have hcons : listMask (m :: ns) = listMask ns ||| 1 <<< m := rfl
    rw [hcons, Nat.testBit_or, Bool.or_eq_true, ih, Nat.one_shiftLeft, Nat.testBit_two_pow,
      decide_eq_true_eq, List.mem_cons, or_comm, eq_comm]

theorem testBit_codeMask {lists : List (List ℕ)} {n : ℕ} :
    (codeMask lists).testBit n = true ↔ ∃ ns ∈ lists, n ∈ ns := by
  induction lists with
  | nil => simp [codeMask]
  | cons ns lists ih =>
    have hcons : codeMask (ns :: lists) = listMask ns ||| codeMask lists := rfl
    rw [hcons, Nat.testBit_or, Bool.or_eq_true, testBit_listMask, ih]
    simp

/-! ## Ranges and runs -/

/-- The code points of a range. -/
def CodeRange.members (r : CodeRange) : List ℕ := List.range' r.first (r.last + 1 - r.first)

theorem CodeRange.mem_members {r : CodeRange} {n : ℕ} (hfirst : r.first ≤ n) (hlast : n ≤ r.last) :
    n ∈ r.members := by
  rw [members, List.mem_range'_1]
  omega

/-- The code points that a run moves. -/
def CaseRun.members (r : CaseRun) : List ℕ :=
  (List.range ((r.last - r.first) / r.stride + 1)).map (r.first + r.stride * ·)

theorem CaseRun.mem_members {r : CaseRun} {n : ℕ} (hfirst : r.first ≤ n) (hlast : n ≤ r.last)
    (hstride : (n - r.first) % r.stride = 0) : n ∈ r.members := by
  have hmul : r.stride * ((n - r.first) / r.stride) = n - r.first :=
    Nat.mul_div_cancel' (Nat.dvd_of_mod_eq_zero hstride)
  refine List.mem_map.mpr ⟨(n - r.first) / r.stride, ?_, by rw [hmul]; omega⟩
  rw [List.mem_range]
  exact Nat.lt_succ_of_le (Nat.div_le_div_right (by omega))

/-- The code points that a case mapping may change, in lists. -/
def CaseMap.changed (m : CaseMap) : List (List ℕ) :=
  m.special.map (·.1) :: m.runs.map CaseRun.members

/-- An image is listed, comes from a run or is the code point itself. -/
theorem CaseMap.image_cases (m : CaseMap) (n : ℕ) :
    (∃ ns, (n, ns) ∈ m.special ∧ m.image n = ns) ∨
      (∃ r ∈ m.runs, n ∈ r.members ∧ m.image n = [(n + r.delta).toNat]) ∨ m.image n = [n] := by
  rw [image]
  split
  · rename_i ns hns
    obtain ⟨l, r, hl, -⟩ := List.lookup_eq_some_iff.mp hns
    exact .inl ⟨ns, by rw [hl]; exact List.mem_append_right _ List.mem_cons_self, rfl⟩
  · split
    · rename_i r hr
      have hmem := List.mem_of_find?_eq_some hr
      have hprop := List.find?_some hr
      simp only [Bool.and_eq_true, decide_eq_true_eq, beq_iff_eq] at hprop
      exact .inr (.inl ⟨r, hmem, CaseRun.mem_members hprop.1.1 hprop.1.2 hprop.2, rfl⟩)
    · exact .inr (.inr rfl)

/-- A code point outside these lists is its own image. -/
theorem CaseMap.image_eq_self {m : CaseMap} {n : ℕ} (h : (codeMask m.changed).testBit n = false) :
    m.image n = [n] := by
  have hnot : ∀ ns ∈ m.changed, n ∉ ns := by
    intro ns hns hn
    rw [testBit_codeMask.mpr ⟨ns, hns, hn⟩] at h
    exact nomatch h
  rcases m.image_cases n with ⟨ns, hns, -⟩ | ⟨r, hr, hn, -⟩ | himage
  · exact absurd (List.mem_map_of_mem (f := (·.1)) hns) (hnot _ List.mem_cons_self)
  · exact absurd hn (hnot _ (List.mem_cons_of_mem _ (List.mem_map_of_mem hr)))
  · exact himage

theorem CaseMap.apply_eq_self {m : CaseMap} {c : Char}
    (h : (codeMask m.changed).testBit c.toNat = false) : m.apply c = [c] := by
  rw [apply, image_eq_self h, List.map_singleton, Char.ofNat_toNat]

end Airgap.Text
