import Airgap.Text.Digit
import Mathlib.Data.List.Induction
import Mathlib.Data.Nat.Digits.Defs

/-!
# Digits of all scripts

* `isDigit_of_decimalValue?`: decimal digits are digits.
* `readDecimal?_eq_some_iff`, `readDecimal?_eq_none_iff`: which number is read from decimal digits, and
  when none is.
-/

namespace Airgap.Text

variable {cs : List Char} {n : ℕ}

/-- The digits of each script are among the digits. -/
theorem covered_decimalZeros : (decimalZeros.all fun z =>
    digitRanges.any fun r => r.first ≤ z && z + 9 ≤ r.last) = true := by
  set_option maxRecDepth 20000 in decide

theorem isDigit_of_decimalValue? {c : Char} {d : ℕ} (h : decimalValue? c = some d) : isDigit c = true := by
  obtain ⟨z, hz, -⟩ := Option.map_eq_some_iff.mp h
  have hc := List.find?_some hz
  have hcovered := List.all_eq_true.mp covered_decimalZeros z (List.mem_of_find?_eq_some hz)
  obtain ⟨r, hr, hrange⟩ := List.any_eq_true.mp hcovered
  rw [Bool.and_eq_true, decide_eq_true_eq, decide_eq_true_eq] at hc hrange
  exact CodeRange.any_iff.mpr ⟨r, hr, by omega, by omega⟩

theorem readDecimal?_concat (cs : List Char) (c : Char) : readDecimal? (cs ++ [c]) =
    (readDecimal? cs).bind fun n => (decimalValue? c).map (10 * n + ·) := by
  simp [readDecimal?, List.foldlM_append]

theorem readDecimal?_eq_some_iff : readDecimal? cs = some n ↔
    ∃ digits : List ℕ, cs.map decimalValue? = digits.map some ∧ n = Nat.ofDigits 10 digits.reverse := by
  induction cs using List.reverseRecOn generalizing n with
  | nil =>
    constructor
    · intro h
      exact ⟨[], rfl, (Option.some.inj h).symm⟩
    · rintro ⟨digits, hdigits, rfl⟩
      obtain rfl := List.map_eq_nil_iff.mp hdigits.symm
      rfl
  | append_singleton cs c ih =>
    rw [readDecimal?_concat, Option.bind_eq_some_iff]
    constructor
    · rintro ⟨m, hm, hc⟩
      obtain ⟨digits, hdigits, rfl⟩ := ih.mp hm
      obtain ⟨d, hd, rfl⟩ := Option.map_eq_some_iff.mp hc
      refine ⟨digits ++ [d], ?_, ?_⟩
      · rw [List.map_append, hdigits, List.map_append, List.map_singleton, List.map_singleton, hd]
      · rw [List.reverse_append, List.reverse_singleton, List.singleton_append, Nat.ofDigits_cons,
          Nat.add_comm]
    · rintro ⟨digits, hdigits, rfl⟩
      rw [List.map_append] at hdigits
      obtain ⟨front, last, rfl, hfront, hlast⟩ := List.map_eq_append_iff.mp hdigits.symm
      rw [List.map_singleton] at hlast
      obtain ⟨d, rfl, hd⟩ := List.map_eq_singleton_iff.mp hlast
      refine ⟨_, ih.mpr ⟨front, hfront.symm, rfl⟩, ?_⟩
      rw [← hd, Option.map_some, List.reverse_append, List.reverse_singleton, List.singleton_append,
        Nat.ofDigits_cons, Nat.add_comm]

theorem exists_decimalValue?_of_mem {digits : List ℕ} (h : cs.map decimalValue? = digits.map some)
    {c : Char} (hc : c ∈ cs) : ∃ d, decimalValue? c = some d := by
  have hmem : decimalValue? c ∈ digits.map some := by
    rw [← h]
    exact List.mem_map_of_mem hc
  obtain ⟨d, -, hd⟩ := List.mem_map.mp hmem
  exact ⟨d, hd.symm⟩

/-- Digits that are all decimal have a number. -/
theorem readDecimal?_eq_none_iff : readDecimal? cs = none ↔ ∃ c ∈ cs, decimalValue? c = none := by
  constructor
  · intro h
    by_contra hall
    have hvalues : cs.map decimalValue? = (cs.map fun c => (decimalValue? c).getD 0).map some := by
      rw [List.map_map]
      refine List.map_congr_left fun c hc => ?_
      cases hd : decimalValue? c with
      | none => exact absurd ⟨c, hc, hd⟩ hall
      | some d => rw [Function.comp_apply, hd, Option.getD_some]
    rw [readDecimal?_eq_some_iff.mpr ⟨_, hvalues, rfl⟩] at h
    exact nomatch h
  · rintro ⟨c, hc, hnone⟩
    cases hn : readDecimal? cs with
    | none => rfl
    | some n =>
      obtain ⟨digits, hdigits, -⟩ := readDecimal?_eq_some_iff.mp hn
      obtain ⟨d, hd⟩ := exists_decimalValue?_of_mem hdigits hc
      exact nomatch hnone.symm.trans hd

end Airgap.Text
