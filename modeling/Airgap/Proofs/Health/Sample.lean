import Airgap.Health.Report
import Airgap.Proofs.Outcome
import Mathlib.Algebra.Order.Ring.Int

/-!
# Samples that can be tested

* `Testable`: a sample has the bits that are tested, and enough of them.
* `leading`, `whole`: the bits that are tested, and the bytes that they fill.
* `ofSample_cases`: a sample is tested on these alone, or refused for a parameter.
* `Findings.get_ofBits`: a test is made if the bits are enough for it, and skipped if not.
* `Report.ofSamples_eq`: the report on samples that can all be tested.
-/

namespace Airgap.Health

open Entropy (byteBits length_byteBits)

/-- The sample has the bits that are tested, and enough of them. -/
structure Testable (count : Option ℤ) (data : Bytes) : Prop where
  enough : minSampleBits ≤ testedBits data count
  within : testedBits data count ≤ 8 * data.length

instance (count : Option ℤ) (data : Bytes) : Decidable (Testable count data) :=
  decidable_of_iff (minSampleBits ≤ testedBits data count ∧ testedBits data count ≤ 8 * data.length)
    ⟨fun h => ⟨h.1, h.2⟩, fun h => ⟨h.enough, h.within⟩⟩

/-- The bits of a sample that are tested. -/
def leading (count : Option ℤ) (data : Bytes) : List Bool :=
  (byteBits data).take (testedBits data count).toNat

/-- The bytes of a sample that the tested bits fill. -/
def whole (count : Option ℤ) (data : Bytes) : Bytes :=
  data.take ((testedBits data count).toNat / 8)

variable {R : Type} [Reckoning R] {count : Option ℤ} {data : Bytes}

/-- What a test finds in bits that are enough for it, and in the whole bytes that they fill. -/
def found (bits : List Bool) (whole : Bytes) : TestName → Finding R
  | .monobit => monobit bits
  | .chiSquared => chiSquared whole
  | .runs => runs bits
  | .autocorrelation => autocorrelation bits

/-- A test that is made finds something. -/
theorem isSkipped_found (bits : List Bool) (whole : Bytes) (name : TestName) :
    (found bits whole name : Finding R).isSkipped = false := by
  cases name with
  | runs =>
    show (runs bits : Finding R).isSkipped = false
    rw [runs]
    dsimp only
    split <;> rfl
  | _ => rfl

theorem Findings.get_ofBits (bits : List Bool) (whole : Bytes) (name : TestName) :
    (Findings.ofBits bits whole : Findings R).get name =
      if bits.length < name.needed then .skipped name.needed bits.length else found bits whole name := by
  cases name <;> rfl

theorem Testable.length_leading (h : Testable count data) :
    ((leading count data).length : ℤ) = testedBits data count := by
  have henough := h.enough
  have hwithin := h.within
  rw [leading, List.length_take, length_byteBits]
  omega

theorem Testable.ofSample_eq (h : Testable count data) :
    Findings.ofSample data count =
      (.ok (.ofBits (leading count data) (whole count data)) : Except Error (Findings R)) := by
  rw [Findings.ofSample, if_neg (not_lt.mpr h.within), if_neg (not_lt.mpr h.enough)]
  rfl

/-- A sample is tested on its leading bits and the bytes that they fill, or refused for a parameter. -/
theorem ofSample_cases (count : Option ℤ) (data : Bytes) :
    Testable count data ∨
      ∃ e, e.kind = .parameter ∧
        Findings.ofSample data count = (.error e : Except Error (Findings R)) := by
  by_cases hwithin : 8 * (data.length : ℤ) < testedBits data count
  · exact .inr ⟨_, rfl, if_pos hwithin⟩
  · by_cases henough : testedBits data count < minSampleBits
    · refine .inr ⟨.sampleTooShort (testedBits data count), rfl, ?_⟩
      rw [Findings.ofSample, if_neg hwithin, if_pos henough]
    · exact .inl ⟨not_lt.mp henough, not_lt.mp hwithin⟩

namespace Report

/-- The report on samples that can all be tested. -/
theorem ofSamples_eq {samples : List Bytes} (hne : samples ≠ [])
    (h : ∀ data ∈ samples, Testable count data) :
    ofSamples samples count = .ok (⟨samples.map fun data =>
      .ofBits (leading count data) (whole count data), testedBits (samples.head hne) count⟩ :
        Report R) := by
  cases samples with
  | nil => exact absurd rfl hne
  | cons first rest =>
    rw [ofSamples, mapM_eq_ok fun data hdata => (h data hdata).ofSample_eq]
    rfl

variable {r : Report R} {name : TestName}

theorem mem_all (name : TestName) : name ∈ TestName.all := by cases name <;> decide

theorem mem_failed_iff : name ∈ r.failed ↔ r.samples.length < 2 * r.failures name := by
  rw [failed, List.mem_filter, decide_eq_true_iff, and_iff_right (mem_all name)]

theorem passes_iff : r.passes = true ↔ r.failed = [] := List.isEmpty_iff

end Report

end Airgap.Health
