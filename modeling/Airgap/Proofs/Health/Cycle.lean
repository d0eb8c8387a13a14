import Airgap.Proofs.Health.Exact
import Airgap.Proofs.Health.Sample

/-!
# Bits that come again

* `Repeats`, `Alternates`: bits a distance apart all agree, or all differ.
* `countMatches_of_repeats`, `countMatches_of_alternates`: then all of them match, or none.
* `autocorrelation_of_cyclic`: either is caught, at every distance that is looked at.
* `exists_report_of_cyclic`: the report on such a sample.
-/

namespace Airgap.Health

/-- Each bit comes again `d` places later. -/
def Repeats (d : ℕ) (bits : List Bool) : Prop :=
  ∀ i, (h : i + d < bits.length) → bits[i] = bits[i + d]

/-- Each bit is turned over `d` places later. -/
def Alternates (d : ℕ) (bits : List Bool) : Prop :=
  ∀ i, (h : i + d < bits.length) → bits[i] ≠ bits[i + d]

section Bits

variable {d n : ℕ} {bits : List Bool}

theorem Repeats.take (h : Repeats d bits) : Repeats d (bits.take n) := by
  intro i hi
  rw [List.length_take] at hi
  rw [List.getElem_take, List.getElem_take]
  exact h i (by omega)

/-- A block that comes again and again. -/
theorem repeats_flatten_replicate (block : List Bool) (k : ℕ) :
    Repeats block.length (List.replicate k block).flatten := by
  have hdrop : (List.replicate k block).flatten.drop block.length <+:
      (List.replicate k block).flatten := by
    cases k with
    | zero => simp
    | succ k =>
      conv_lhs => rw [List.replicate_succ, List.flatten_cons, List.drop_left]
      rw [List.replicate_succ', List.flatten_append]
      exact List.prefix_append _ _
  intro i hi
  rw [← hdrop.getElem (by rw [List.length_drop]; omega), List.getElem_drop]
  simp only [Nat.add_comm]

/-! ## Matches -/

/-- The bits and those some places later, pair by pair. -/
theorem forall_mem_zip_drop_iff {P : Bool → Bool → Prop} :
    (∀ p ∈ bits.zip (bits.drop d), P p.1 p.2) ↔
      ∀ i, (h : i + d < bits.length) → P bits[i] bits[i + d] := by
  constructor
  · intro hall i h
    have hp : (bits[i], bits[i + d]) ∈ bits.zip (bits.drop d) := by
      rw [List.mem_iff_getElem]
      refine ⟨i, ?_, ?_⟩
      · rw [List.length_zip, List.length_drop]
        omega
      · simp only [List.getElem_zip, List.getElem_drop, Nat.add_comm]
    exact hall _ hp
  · intro h p hp
    obtain ⟨i, hi, rfl⟩ := List.mem_iff_getElem.mp hp
    rw [List.length_zip, List.length_drop] at hi
    simp only [List.getElem_zip, List.getElem_drop, Nat.add_comm d]
    exact h i (by omega)

instance : Decidable (Repeats d bits) := decidable_of_iff _ forall_mem_zip_drop_iff

instance : Decidable (Alternates d bits) := decidable_of_iff _ forall_mem_zip_drop_iff

theorem countMatches_of_repeats (h : Repeats d bits) : countMatches d bits = bits.length - d := by
  have hlength : (bits.zip (bits.drop d)).length = bits.length - d := by
    rw [List.length_zip, List.length_drop]
    omega
  rw [countMatches, ← hlength, List.countP_eq_length]
  simp only [beq_iff_eq]
  exact forall_mem_zip_drop_iff.mpr h

theorem countMatches_of_alternates (h : Alternates d bits) : countMatches d bits = 0 := by
  rw [countMatches, List.countP_eq_zero]
  simp only [beq_iff_eq]
  exact forall_mem_zip_drop_iff.mpr h

/-- All match or none does: the imbalance is as great as it can be. -/
theorem imbalance_of_cyclic (h : Repeats d bits ∨ Alternates d bits) :
    imbalance (countMatches d bits) (bits.length - d) = bits.length - d := by
  rw [imbalance]
  rcases h with h | h
  · rw [countMatches_of_repeats h]
    omega
  · rw [countMatches_of_alternates h]
    omega

/-- **A cycle at any distance that is looked at is caught**, whatever the number of bits. -/
theorem autocorrelation_of_cyclic (hlong : TestName.autocorrelation.needed ≤ bits.length)
    (hpos : 1 ≤ d) (hd : d ≤ offsets) (h : Repeats d bits ∨ Alternates d bits) :
    (autocorrelation bits : Finding Exact).passes = false := by
  have hneeded : TestName.autocorrelation.needed = 116 := rfl
  have hoffsets : offsets = 16 := rfl
  rw [← Bool.not_eq_true, passes_autocorrelation_iff (by omega)]
  intro hpasses
  have hsmall := hpasses d hpos hd
  rw [imbalance_of_cyclic h] at hsmall
  have htotal : 100 ≤ bits.length - d := by omega
  generalize bits.length - d = total at hsmall htotal
  have hgreat : 342 ^ 2 * total ≤ (100 * total) ^ 2 := by
    calc 342 ^ 2 * total ≤ 100 ^ 2 * 100 * total := Nat.mul_le_mul_right total (by decide)
      _ ≤ 100 ^ 2 * total * total := Nat.mul_le_mul_right total (Nat.mul_le_mul_left _ htotal)
      _ = (100 * total) ^ 2 := by ring
  omega

end Bits

/-! ## One sample -/

variable {count : Option ℤ} {data : Bytes} {d : ℕ}

/-- **The report on one sample** whose bits come again, or are turned over, at a distance. -/
theorem exists_report_of_cyclic (htest : Testable count data)
    (hlong : TestName.autocorrelation.needed ≤ testedBits data count) (hpos : 1 ≤ d)
    (hd : d ≤ offsets) (h : Repeats d (leading count data) ∨ Alternates d (leading count data)) :
    ∃ (f : Findings Exact) (report : Report Exact), Findings.ofSample data count = .ok f ∧
      f.autocorrelation.passes = false ∧ Report.ofSamples [data] count = .ok report ∧
      .autocorrelation ∈ report.failed ∧ report.passes = false := by
  have hlength := htest.length_leading
  have hneeded : ¬ (leading count data).length < TestName.autocorrelation.needed := by omega
  have hfails : ((Findings.ofBits (leading count data) (whole count data) :
      Findings Exact).get .autocorrelation).passes = false := by
    rw [Findings.get_ofBits, if_neg hneeded]
    exact autocorrelation_of_cyclic (Nat.not_lt.mp hneeded) hpos hd h
  have hreport := Report.ofSamples_eq (R := Exact) (List.cons_ne_nil data [])
    (List.forall_mem_singleton.mpr htest)
  have hfailed : TestName.autocorrelation ∈ (⟨[.ofBits (leading count data) (whole count data)],
      testedBits data count⟩ : Report Exact).failed := by
    rw [Report.mem_failed_iff, Report.failures, List.countP_singleton, hfails]
    exact Nat.lt_succ_self 1
  refine ⟨_, _, htest.ofSample_eq, hfails, hreport, hfailed, ?_⟩
  rw [← Bool.not_eq_true, Report.passes_iff]
  exact List.ne_nil_of_mem hfailed

end Airgap.Health
