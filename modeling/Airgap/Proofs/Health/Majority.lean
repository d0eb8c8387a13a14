import Airgap.Proofs.Health.Cycle
import Airgap.Proofs.Health.Summary

/-!
# The vote over samples

* `fails`, `skips`: what one sample says about a test.
* `Report.samples_of_ofSamples`: the findings of a report belong to the samples, one by one.
* `Report.failed_eq`, `Report.skipped_eq`: the verdict as a count over the samples.
* `Report.of_perm`: the verdict does not depend on the order of the samples.
* `majority_of_samples`: the vote as a whole, with the lines of the summary.
-/

namespace Airgap.Health

open Text (splitWhere)

variable {R : Type} [Reckoning R] {count : Option ℤ} {data : Bytes} {name : TestName}

/-! ## One sample -/

/-- A test that is skipped says nothing against the sample. -/
theorem Finding.passes_of_isSkipped {finding : Finding R} (h : finding.isSkipped = true) :
    finding.passes = true := by
  cases finding with
  | skipped => rfl
  | _ => exact nomatch h

variable (R count name) in
/-- Whether a sample fails a test. -/
def fails (data : Bytes) : Bool :=
  match (Findings.ofSample data count : Except Error (Findings R)) with
  | .ok findings => !(findings.get name).passes
  | .error _ => false

variable (R count name) in
/-- Whether a sample is too short for a test. -/
def skips (data : Bytes) : Bool :=
  match (Findings.ofSample data count : Except Error (Findings R)) with
  | .ok findings => (findings.get name).isSkipped
  | .error _ => false

theorem fails_of_ofSample (name : TestName) {findings : Findings R}
    (h : Findings.ofSample data count = .ok findings) :
    fails R count name data = !(findings.get name).passes := by
  rw [fails, h]

theorem skips_of_ofSample (name : TestName) {findings : Findings R}
    (h : Findings.ofSample data count = .ok findings) :
    skips R count name data = (findings.get name).isSkipped := by
  rw [skips, h]

/-- A sample skips the tests that need more bits than it has. -/
theorem Testable.skips_iff (h : Testable count data) :
    skips R count name data = true ↔ testedBits data count < name.needed := by
  have hlength := h.length_leading
  rw [skips_of_ofSample name h.ofSample_eq, Findings.get_ofBits]
  split
  · exact iff_of_true rfl (by omega)
  · rw [isSkipped_found]
    exact iff_of_false Bool.false_ne_true (by omega)

theorem fails_eq_false_of_skips (h : skips R count name data = true) :
    fails R count name data = false := by
  unfold skips at h
  unfold fails
  split at h
  · next findings hfindings =>
    rw [Finding.passes_of_isSkipped h]
    rfl
  · rfl

/-! ## Samples together -/

namespace Report

variable {report : Report R} {samples : List Bytes}

theorem exists_ofSamples_eq_ok (hne : samples ≠ [])
    (hok : ∀ data ∈ samples, ∃ findings : Findings R, Findings.ofSample data count = .ok findings) :
    ∃ report : Report R, ofSamples samples count = .ok report := by
  cases samples with
  | nil => exact absurd rfl hne
  | cons first rest =>
    cases hrun : (first :: rest).mapM fun data => (Findings.ofSample data count : Except Error (Findings R)) with
    | ok findings =>
      refine ⟨⟨findings, testedBits first count⟩, ?_⟩
      rw [ofSamples, hrun]
      rfl
    | error e =>
      obtain ⟨data, hdata, herror⟩ := exists_of_mapM_eq_error hrun
      obtain ⟨findings, hfindings⟩ := hok data hdata
      rw [hfindings] at herror
      cases herror

variable (h : ofSamples samples count = .ok report)

include h

/-- The findings of a report are those of the samples, one by one. -/
theorem samples_of_ofSamples :
    List.Forall₂ (fun data findings => Findings.ofSample data count = .ok findings) samples
      report.samples := by
  cases samples with
  | nil => exact nomatch h
  | cons first rest =>
    obtain ⟨findings, hfindings, hreport⟩ := bind_eq_ok.mp h
    obtain rfl := Except.ok.inj hreport
    exact mapM_eq_ok_iff.mp hfindings

theorem length_samples : report.samples.length = samples.length :=
  (samples_of_ofSamples h).length_eq.symm

/-- What the findings say, sample by sample. -/
theorem map_samples {f : Findings R → Bool} {g : Bytes → Bool}
    (hfg : ∀ data findings, Findings.ofSample data count = .ok findings → g data = f findings) :
    samples.map g = report.samples.map f := by
  rw [← List.forall₂_eq_eq_eq, List.forall₂_map_left_iff, List.forall₂_map_right_iff]
  exact (samples_of_ofSamples h).imp hfg

/-- A sample counts against a test if it fails the test. -/
theorem failures_eq (name : TestName) : report.failures name = samples.countP (fails R count name) := by
  have hfails := map_samples h fun _ _ hok => fails_of_ofSample name hok
  have hcount := congrArg (List.countP id) hfails
  rw [List.countP_map, List.countP_map] at hcount
  exact hcount.symm

theorem failed_eq :
    report.failed =
      TestName.all.filter fun name => samples.length < 2 * samples.countP (fails R count name) := by
  simp only [failed, length_samples h, failures_eq h]

theorem skipped_eq :
    report.skipped = TestName.all.filter fun name => samples.all (skips R count name) := by
  refine List.filter_congr fun name _ => ?_
  have hskips := map_samples h fun _ _ hok => skips_of_ofSample name hok
  have hall := congrArg (List.all · id) hskips
  rw [List.all_map, List.all_map] at hall
  exact hall.symm

theorem mem_failed (name : TestName) :
    name ∈ report.failed ↔ samples.length < 2 * samples.countP (fails R count name) := by
  rw [mem_failed_iff, length_samples h, failures_eq h]

theorem mem_skipped (name : TestName) :
    name ∈ report.skipped ↔ samples.all (skips R count name) = true := by
  rw [skipped_eq h, List.mem_filter, and_iff_right (mem_all name)]

/-- The line of a test says what the samples do. -/
theorem line_eq (name : TestName) :
    report.line name = verdict name (samples.all (skips R count name))
      (samples.countP (fails R count name)) samples.length := by
  have hskipped : decide (name ∈ report.skipped) = samples.all (skips R count name) := by
    rw [Bool.eq_iff_iff, decide_eq_true_iff, mem_skipped h]
  rw [line_eq_verdict, hskipped, failures_eq h, length_samples h]

/-- A test that all samples skip is failed by none. -/
theorem not_mem_failed_of_skipped (hname : name ∈ report.skipped) : name ∉ report.failed := by
  have hnone : samples.countP (fails R count name) = 0 := by
    rw [List.countP_eq_zero]
    intro data hdata
    rw [fails_eq_false_of_skips (List.all_eq_true.mp ((mem_skipped h name).mp hname) data hdata)]
    exact Bool.false_ne_true
  rw [mem_failed h, hnone]
  exact Nat.not_lt_zero _

/-- The order of the samples is nothing to the verdict. -/
theorem of_perm {report' : Report R} {samples' : List Bytes} (hperm : samples.Perm samples')
    (h' : ofSamples samples' count = .ok report') :
    report'.failed = report.failed ∧ report'.skipped = report.skipped := by
  rw [failed_eq h', failed_eq h, skipped_eq h', skipped_eq h]
  simp only [hperm.length_eq, hperm.countP_eq, hperm.all_eq, and_self]

end Report

/-- **The vote over samples** of any lengths. More than half of them have to fail a test, and all of
them to skip it; the order of the samples is nothing to the verdict; and the summary has one line
that mentions a test, which says what became of it. -/
theorem majority_of_samples {samples : List Bytes} (hne : samples ≠ [])
    (hok : ∀ data ∈ samples, ∃ findings : Findings R, Findings.ofSample data count = .ok findings) :
    ∃ report : Report R, Report.ofSamples samples count = .ok report ∧
      (∀ name, name ∈ report.failed ↔ samples.length < 2 * samples.countP (fails R count name)) ∧
      (∀ name, name ∈ report.skipped ↔ ∀ data ∈ samples, skips R count name data = true) ∧
      (∀ name ∈ report.skipped, name ∉ report.failed) ∧
      (report.passes = true ↔ report.failed = []) ∧
      report.failed.Sublist TestName.all ∧ report.skipped.Sublist TestName.all ∧
      (∀ samples', samples.Perm samples' →
        ∃ report' : Report R, Report.ofSamples samples' count = .ok report' ∧
          report'.failed = report.failed ∧ report'.skipped = report.skipped ∧
          report'.passes = report.passes) ∧
      ∀ name, (splitWhere (· == '\n') report.summary.toList).filter
          (fun l => name.text.toList <:+: l) =
        [(verdict name (samples.all (skips R count name)) (samples.countP (fails R count name))
          samples.length).toList] := by
  obtain ⟨report, hreport⟩ := Report.exists_ofSamples_eq_ok hne hok
  refine ⟨report, hreport, Report.mem_failed hreport, fun name => ?_,
    fun name hname => Report.not_mem_failed_of_skipped hreport hname, Report.passes_iff,
    List.filter_sublist, List.filter_sublist, fun samples' hperm => ?_, fun name => ?_⟩
  · rw [Report.mem_skipped hreport, List.all_eq_true]
  · have hne' : samples' ≠ [] := by
      rintro rfl
      exact hne hperm.eq_nil
    obtain ⟨report', hreport'⟩ := Report.exists_ofSamples_eq_ok (R := R) hne'
      fun data hdata => hok data (hperm.mem_iff.mpr hdata)
    obtain ⟨hfailed, hskipped⟩ := Report.of_perm hreport hperm hreport'
    exact ⟨report', hreport', hfailed, hskipped, by rw [Report.passes, hfailed, Report.passes]⟩
  · rw [Report.filter_mentions, Report.line_eq hreport]

/-- Two of three samples hold nothing but zeros, and the third is too short to tell. -/
theorem majority_of_samples_zeros :
    ∃ report : Report Exact, Report.ofSamples
        [List.replicate 16 0, List.replicate 13 90, List.replicate 16 0] none = .ok report ∧
      .autocorrelation ∈ report.failed ∧ .chiSquared ∈ report.skipped ∧
      .chiSquared ∉ report.failed ∧
      (splitWhere (· == '\n') report.summary.toList).filter
          (fun l => TestName.autocorrelation.text.toList <:+: l) =
        ["  [!] autocorrelation      FAIL (2/3 samples)".toList] := by
  have htest : ∀ data ∈ ([List.replicate 16 0, List.replicate 13 90, List.replicate 16 0] : List Bytes),
      Testable none data := by decide
  obtain ⟨report, hreport, hfailed, hskipped, hdisjoint, -, -, -, -, hlines⟩ :=
    majority_of_samples (R := Exact) (List.cons_ne_nil _ _) fun data hdata =>
      ⟨_, (htest data hdata).ofSample_eq⟩
  have hchi : TestName.chiSquared ∈ report.skipped := by
    rw [hskipped]
    intro data hdata
    rw [(htest data hdata).skips_iff]
    revert data
    decide
  have hzeros : fails Exact none .autocorrelation (List.replicate 16 0) = true := by
    obtain ⟨findings, -, hfindings, hfails, -⟩ :=
      exists_report_of_cyclic (htest (List.replicate 16 0) (by decide)) (by decide) (le_refl 1)
        (by decide) (.inl (by decide))
    rw [fails_of_ofSample _ hfindings]
    exact (Bool.not_eq_true' _).mpr hfails
  have hshort : fails Exact none .autocorrelation (List.replicate 13 90) = false :=
    fails_eq_false_of_skips ((htest _ (by decide)).skips_iff.mpr (by decide))
  have hcount : List.countP (fails Exact none .autocorrelation)
      [List.replicate 16 0, List.replicate 13 90, List.replicate 16 0] = 2 := by
    rw [List.countP_cons, List.countP_cons, List.countP_singleton, hzeros, hshort]
    rfl
  have hmade : skips Exact none .autocorrelation (List.replicate 16 0) = false := by
    rw [← Bool.not_eq_true]
    intro hskips
    rw [fails_eq_false_of_skips hskips] at hzeros
    exact Bool.false_ne_true hzeros
  refine ⟨report, hreport, ?_, hchi, hdisjoint _ hchi, ?_⟩
  · rw [hfailed, hcount]
    decide
  · rw [hlines, hcount, List.all_cons, hmade]
    decide

end Airgap.Health
