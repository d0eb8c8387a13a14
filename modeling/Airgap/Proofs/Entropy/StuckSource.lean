import Airgap.Proofs.Entropy.HealthCheck
import Airgap.Proofs.Health.Cycle

/-!
# A stuck source

* `Collector.Stuck`: a session that took in one value again and again, and nothing else.
* `Stuck.perform`, `Stuck.performAll`: it stays so while nothing else is fed, whatever else is done.
* `Holds.exists_report_of_replicate`: the bits of such a session come again, so its tests fail.
* `cycles_fail`: samples that come again, and stuck sources, are always caught.
-/

namespace Airgap.Entropy

open Health (Alternates Exact Findings Repeats Report Testable TestName leading offsets testedBits
  exists_report_of_cyclic repeats_flatten_replicate)

theorem Source.length_rawBits (s : Source) {v : ℕ} (hv : v < s.retained) :
    (s.rawBits v).length = s.bits := by
  rw [rawBits, if_pos (s.retained_eq ▸ hv), length_bitsDown]

theorem Source.stream_replicate (s : Source) (v k : ℕ) :
    s.stream false (List.replicate k v) = (List.replicate k (s.rawBits v)).flatten := by
  rw [stream, if_neg Bool.false_ne_true, List.flatMap_def, List.map_replicate]

/-- A value that comes again and again brings its bits again and again. -/
theorem Source.repeats_stream (s : Source) {v : ℕ} (hv : v < s.retained) (k : ℕ) :
    Repeats s.bits (s.stream false (List.replicate k v)) := by
  rw [s.stream_replicate, ← s.length_rawBits hv]
  exact repeats_flatten_replicate _ k

theorem Source.length_stream_replicate (s : Source) {v : ℕ} (hv : v < s.retained) (k : ℕ) :
    (s.stream false (List.replicate k v)).length = k * s.bits := by
  rw [s.stream_replicate, List.length_flatten, List.map_replicate, List.sum_replicate,
    s.length_rawBits hv, smul_eq_mul]

theorem Source.bits_le_offsets (s : Source) : s.bits ≤ offsets := by cases s <;> decide

namespace Collector

open Step

variable {fresh c : Collector} {source : Source} {n : ℤ} {v k : ℕ}

/-- An action that feeds nothing but one outcome. -/
def Action.FeedsOnly (source : Source) (n : ℤ) : Action → Prop
  | .add o => o.toEvent source = ⟨source, .integer n⟩
  | .extend os => ∀ o ∈ os, o.toEvent source = ⟨source, .integer n⟩
  | _ => True

/-- A session that was begun as `fresh` took in one value again and again and nothing else, or was
closed. -/
structure Stuck (fresh c : Collector) (v : ℕ) : Prop where
  reset_eq : c.reset = fresh
  holds : c.closed = true ∧ c.finalized = true ∨ ∃ k, c.Holds (List.replicate k v)

namespace Stuck

theorem source_eq (h : Stuck fresh c v) : c.source = fresh.source := by
  rw [← h.reset_eq]
  rfl

theorem target_eq (h : Stuck fresh c v) : c.target = fresh.target := by
  rw [← h.reset_eq]
  rfl

theorem correction_eq (h : Stuck fresh c v) : c.correction = fresh.correction := by
  rw [← h.reset_eq]
  rfl

theorem start (h : fresh.reset = fresh) (htarget : 0 < fresh.target) : Stuck fresh fresh v :=
  ⟨h, .inr ⟨0, h ▸ Holds.fresh htarget⟩⟩

/-- **One more of the same outcome.** -/
theorem add (h : Stuck fresh c (fresh.source.counted n)) (hn : fresh.source.Gives n) {o : Observation}
    (ho : o.toEvent fresh.source = ⟨fresh.source, .integer n⟩) :
    Stuck fresh (run (add o) c).2 (fresh.source.counted n) := by
  rcases Bool.eq_false_or_eq_true c.finalized with hc | hc
  · rwa [run_add, if_pos hc]
  · rcases h.holds with ⟨-, hfinal⟩ | ⟨k, hholds⟩
    · exact absurd (hc.symm.trans hfinal) Bool.false_ne_true
    · have hvalue : (o.toEvent fresh.source).value = .ok (fresh.source.counted n) := by
        rw [ho]
        exact hn.value_eq
      rw [← h.source_eq] at ho hvalue
      obtain ⟨-, -, hnext, -, hsame⟩ := hholds.add hc (by rw [ho]) hvalue
      rw [h.source_eq, ← List.replicate_succ'] at hnext
      exact ⟨hsame.trans h.reset_eq, .inr ⟨k + 1, hnext⟩⟩

/-- **One action** that feeds nothing else. -/
theorem perform (h : Stuck fresh c (fresh.source.counted n)) (htarget : 0 < fresh.target)
    (hn : fresh.source.Gives n) {action : Action} (haction : action.FeedsOnly fresh.source n) :
    Stuck fresh (run (perform action) c).2 (fresh.source.counted n) := by
  cases action with
  | add o =>
    rw [Collector.perform, run_map_snd]
    exact h.add hn haction
  | extend os =>
    rw [Collector.perform, run_map_snd]
    exact extend_induction (P := fun c => Stuck fresh c (fresh.source.counted n))
      (fun c' o ho hc' => hc'.add hn (haction o ho)) h
  | entropy | entropyBytes align | healthCheck =>
    rw [Collector.perform, run_reading_snd]
    exact h
  | close | exit => exact ⟨h.reset_eq, .inl ⟨rfl, rfl⟩⟩
  | reset =>
    have hreset : (run (Collector.perform .reset) c).2 = fresh := h.reset_eq
    rw [hreset]
    refine start ?_ htarget
    rw [← h.reset_eq]
    rfl

/-- **Any actions** that feed nothing else. -/
theorem performAll (h : Stuck fresh c (fresh.source.counted n)) (htarget : 0 < fresh.target)
    (hn : fresh.source.Gives n) {actions : List Action}
    (hactions : ∀ action ∈ actions, action.FeedsOnly fresh.source n) :
    Stuck fresh (c.performAll actions) (fresh.source.counted n) := by
  induction actions generalizing c with
  | nil => exact h
  | cons action actions ih =>
    rw [List.forall_mem_cons] at hactions
    exact ih (h.perform htarget hn hactions.1) hactions.2

end Stuck

/-- **The tests of a session that took in one value again and again** fail. -/
theorem Holds.exists_report_of_replicate (h : c.Holds (List.replicate k v)) (hc : c.finalized = true)
    (hraw : c.correction = false) (hlong : TestName.autocorrelation.needed ≤ c.target)
    (hv : v < c.source.retained) :
    ∃ report, c.reportIn Exact = .ok report ∧ report.passes = false := by
  have hlength := h.length_take_stream hc
  obtain ⟨bytes, -, hsize, hbits⟩ := h.entropyBytes_left hc
  have hfront : (c.source.stream c.correction (List.replicate k v)).take c.target <+:
      byteBits bytes := by
    rw [hbits]
    exact List.prefix_append _ _
  have hleading : leading (some c.target) bytes =
      (c.source.stream c.correction (List.replicate k v)).take c.target := by
    rw [List.prefix_iff_eq_take.mp hfront, hlength]
    rfl
  have htest : Testable (some c.target) bytes := by
    have hneeded : TestName.autocorrelation.needed = 116 := rfl
    have hmin : Health.minSampleBits = 100 := rfl
    constructor <;> rw [testedBits, Option.getD_some] <;> omega
  have hrepeats : Repeats c.source.bits (leading (some c.target) bytes) := by
    rw [hleading, hraw]
    exact (c.source.repeats_stream hv k).take
  obtain ⟨-, report, -, -, hreport, -, hfails⟩ := exists_report_of_cyclic htest
    (Int.ofNat_le.mpr hlong) c.source.bits_pos c.source.bits_le_offsets (.inl hrepeats)
  exact ⟨report, (h.reportIn_eq hc hfront).trans hreport, hfails⟩

section Report

variable (h : Stuck fresh c v) (hraw : fresh.correction = false)
  (hlong : TestName.autocorrelation.needed ≤ fresh.target) (hv : v < fresh.source.retained)

include h hraw hlong hv

/-- A stuck session that is finalized fails its tests. -/
theorem Stuck.exists_report (hc : c.finalized = true) (hclosed : c.closed = false) :
    ∃ report, c.reportIn Exact = .ok report ∧ report.passes = false := by
  rcases h.holds with ⟨hended, -⟩ | ⟨k, hholds⟩
  · exact absurd (hclosed.symm.trans hended) Bool.false_ne_true
  · rw [← h.correction_eq] at hraw
    rw [← h.target_eq] at hlong
    rw [← h.source_eq] at hv
    exact hholds.exists_report_of_replicate hc hraw hlong hv

/-- The tests of a stuck session never pass. -/
theorem Stuck.not_passes {report : Report Exact} (hreport : c.reportIn Exact = .ok report) :
    report.passes = false := by
  obtain ⟨hclosed, hc⟩ := open_of_reportIn_eq_ok hreport
  obtain ⟨report', hreport', hfails⟩ := h.exists_report hraw hlong hv hc hclosed
  obtain rfl := Except.ok.inj (hreport.symm.trans hreport')
  exact hfails

end Report

/-- **A cycle is always caught**, in exact arithmetic. A sample whose bits at some distance up to 16 all
agree, or all differ, fails; so does every session, without correction, that is fed nothing but one
outcome that it keeps, whatever else is done with it, and enough of them make a session with a report. -/
theorem cycles_fail :
    (∀ (count : Option ℤ) (data : Bytes) (d : ℕ), 116 ≤ testedBits data count →
      testedBits data count ≤ 8 * data.length → 1 ≤ d → d ≤ 16 →
      Repeats d (leading count data) ∨ Alternates d (leading count data) →
      ∃ (f : Findings Exact) (report : Report Exact), Findings.ofSample data count = .ok f ∧
        f.autocorrelation.passes = false ∧ Report.ofSamples [data] count = .ok report ∧
        .autocorrelation ∈ report.failed ∧ report.passes = false) ∧
    ∀ (source : Source) (target : ℕ) (mode : Option Bool) (n : ℤ), 116 ≤ target →
      mode.getD source.supportsCorrection = false → source.Gives n →
      source.counted n < source.retained →
      ∃ fresh, create source target mode = .ok fresh ∧
        (∀ actions : List Action, (∀ action ∈ actions, action.FeedsOnly source n) →
          ∀ report : Report Exact, (fresh.performAll actions).reportIn Exact = .ok report →
            report.passes = false) ∧
        ∀ actions k, Feeds source actions (List.replicate k n) → target ≤ k * source.bits →
          ∃ report : Report Exact, (fresh.performAll actions).reportIn Exact = .ok report ∧
            report.passes = false := by
  constructor
  · intro count data d hlong hwithin hpos hd hcyclic
    have htest : Testable count data := ⟨le_trans (by decide) hlong, hwithin⟩
    exact exists_report_of_cyclic htest hlong hpos hd hcyclic
  intro source target mode n hlong hraw hn hkept
  have htarget : 0 < target := by omega
  have hneeded : TestName.autocorrelation.needed ≤ target := hlong
  obtain ⟨fresh, hfresh, rfl, rfl, hcorrection, hreset⟩ : ∃ fresh, create source target mode = .ok fresh ∧
      fresh.source = source ∧ fresh.target = target ∧ fresh.correction = false ∧ fresh.reset = fresh :=
    ⟨_, create_eq htarget (by rw [hraw]; exact fun h => nomatch h), rfl, rfl, hraw, rfl⟩
  refine ⟨fresh, hfresh, ?_, ?_⟩
  · intro actions hactions report hreport
    have hstuck := (Stuck.start hreset htarget).performAll htarget hn hactions
    exact hstuck.not_passes hcorrection hneeded hkept hreport
  · intro actions k hfeeds henough
    have hfed := (Fed.start hreset htarget).performAll hfeeds
      fun m hm => (List.eq_of_mem_replicate hm).symm ▸ hn
    rw [Source.values, List.map_replicate, List.nil_append] at hfed
    obtain ⟨-, -, -, -, hc, -⟩ := hfed.complete (by
      rwa [hcorrection, Source.length_stream_replicate _ hkept])
    obtain ⟨m, -, hholds, -⟩ := hfed.taken
    rw [List.take_replicate] at hholds
    have hstuck : Stuck fresh (fresh.performAll actions) (fresh.source.counted n) :=
      ⟨hfed.reset_eq, .inr ⟨_, hholds⟩⟩
    exact hstuck.exists_report hcorrection hneeded hkept hc hholds.closed_eq

/-- A four-sided die that always shows its second face, one throw more than it needs, and a sample that
alternates. -/
theorem cycles_fail_die :
    let actions : List Action := [.extend (List.replicate 60 (.outcome (.integer 2)))]
    (∃ fresh, create .d4 (117 : ℕ) (some false) = .ok fresh ∧
      ∃ report : Report Exact, (fresh.performAll actions).reportIn Exact = .ok report ∧
        report.passes = false) ∧
    ∃ (f : Findings Exact) (report : Report Exact),
      Findings.ofSample (List.replicate 15 0x55) (some 119) = .ok f ∧
      f.autocorrelation.passes = false ∧
      Report.ofSamples [List.replicate 15 0x55] (some 119) = .ok report ∧
      .autocorrelation ∈ report.failed ∧ report.passes = false := by
  intro actions
  obtain ⟨hsamples, hsessions⟩ := cycles_fail
  constructor
  · obtain ⟨fresh, hfresh, -, henough⟩ :=
      hsessions .d4 117 (some false) 2 (by decide) rfl (by decide) (by decide)
    have hfeeds : Feeds .d4 actions (List.replicate 60 2) :=
      @Feeds.extend .d4 _ (List.replicate 60 2) _ [] (by simp; rfl) .nil
    exact ⟨fresh, hfresh, henough actions 60 hfeeds (by decide)⟩
  · exact hsamples (some 119) _ 1 (by decide) (by decide) (by decide) (by decide) (.inr (by decide))

end Collector

end Airgap.Entropy
