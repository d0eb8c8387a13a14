import Airgap.Proofs.Entropy.BitSequence
import Airgap.Proofs.Entropy.Collection
import Airgap.Proofs.Health.Leading

/-!
# The tests of a session

* `Collector.reportIn`: the tests of a session in any arithmetic; in doubles they are `healthCheck`.
* `Holds.reportIn_eq`: a finalized session is tested on its bits, in whatever bytes they stand.
* `tests_leading_bits`: samples, and sessions, that agree on the bits asked for are tested alike.
-/

namespace Airgap.Entropy.Collector

open Health (Findings Reckoning Report chiSquared_congr ofSample_congr)
open Step

/-- The tests of the bits of a finalized session, in any arithmetic. -/
def reportIn (R : Type) [Reckoning R] (c : Collector) : Except Error (Report R) := do
  let bytes ← c.entropyBytes (some .left)
  Report.ofSamples [bytes] (some c.pool.length)

theorem reportIn_float (c : Collector) : c.reportIn Float = c.healthCheck := rfl

variable {R : Type} [Reckoning R] {c : Collector} {vs : List ℕ}

/-- Only a session that is finalized and not closed is tested. -/
theorem open_of_reportIn_eq_ok {report : Report R} (h : c.reportIn R = .ok report) :
    c.closed = false ∧ c.finalized = true := by
  rw [reportIn, bind_eq_ok] at h
  obtain ⟨bytes, hbytes, -⟩ := h
  rw [entropyBytes] at hbytes
  split at hbytes
  · cases hbytes
  · rename_i hclosed
    split at hbytes
    · cases hbytes
    · rename_i hc
      exact ⟨by simpa using hclosed, by simpa using hc⟩

/-- **A finalized session is tested on its bits**, in whatever bytes they stand in front. -/
theorem Holds.reportIn_eq (h : c.Holds vs) (hc : c.finalized = true) {bs : Bytes}
    (hbs : (c.source.stream c.correction vs).take c.target <+: byteBits bs) :
    c.reportIn R = Report.ofSamples [bs] (some c.target) := by
  have hlength := h.length_take_stream hc
  have hpool : c.pool.length = c.target := by rw [h.pool_holds.length_eq, hlength]
  obtain ⟨bytes, hbytes, hsize, hbits⟩ := h.entropyBytes_left hc
  have hfits : (c.target : ℤ) ≤ 8 * bytes.length := by omega
  have hfits' : (c.target : ℤ) ≤ 8 * bs.length := by
    have hle := hbs.length_le
    rw [hlength, length_byteBits] at hle
    omega
  have hagree : (byteBits bytes).take (c.target : ℤ).toNat = (byteBits bs).take (c.target : ℤ).toNat := by
    rw [Int.toNat_natCast, hbits, List.take_left' hlength]
    conv_lhs => rw [List.prefix_iff_eq_take.mp hbs, hlength]
  rw [reportIn, hbytes, ok_bind, hpool]
  exact Health.Report.ofSamples_congr hfits hfits' hagree

theorem run_healthCheck (c : Collector) :
    run (perform .healthCheck) c = (c.healthCheck.map Answer.report, c) := by
  rw [perform, run_bind, run_get]
  dsimp only
  rw [run_bind, run_ofExcept]
  cases c.healthCheck <;> rfl

/-! ## Sessions -/

/-- The session was begun for a number of bits and has gone through actions. -/
def Reached (target : ℤ) (c : Collector) : Prop :=
  ∃ source mode fresh actions,
    create source target mode = .ok fresh ∧ c = fresh.performAll actions

theorem Reached.holds {target : ℤ} (h : Reached target c) (hclosed : c.closed = false) :
    (c.target : ℤ) = target ∧ ∃ vs, c.Holds vs := by
  obtain ⟨source, mode, fresh, actions, hfresh, rfl⟩ := h
  obtain ⟨hpos, htarget, -, hreset⟩ := create_eq_ok hfresh
  have hwell : fresh.WellFormed := hreset ▸ .collected (.fresh hpos)
  obtain ⟨hreached, hsame⟩ := hwell.performAll actions
  have hsettings : (fresh.performAll actions).target = fresh.target := by
    show (fresh.performAll actions).reset.target = fresh.reset.target
    rw [hsame]
  refine ⟨by rw [hsettings, htarget], ?_⟩
  cases hreached with
  | wiped _ closed_eq => exact absurd (hclosed.symm.trans closed_eq) Bool.false_ne_true
  | collected holds => exact ⟨_, holds⟩

/-- **Only the bits asked for are tested.** Samples that agree on them give the same findings, or the same
refusal, and for the frequency of byte values the whole bytes among them are enough. A finalized session
is tested on as many bits as it was begun for, in whatever bytes they stand in front; sessions of the
same bits are tested alike, and a session is the same after the tests. -/
theorem tests_leading_bits :
    (∀ (R : Type) [Reckoning R] (data data' : Bytes) (n : ℤ),
      n ≤ 8 * data.length → n ≤ 8 * data'.length →
      ((byteBits data).take n.toNat = (byteBits data').take n.toNat →
        (Findings.ofSample data (some n) : Except Error (Findings R)) =
          Findings.ofSample data' (some n)) ∧
      (data.take (n.toNat / 8) = data'.take (n.toNat / 8) →
        (Findings.ofSample data (some n)).map (fun f : Findings R => f.chiSquared) =
          (Findings.ofSample data' (some n)).map fun f => f.chiSquared)) ∧
    ∀ target c, Reached target c → c.finalized = true → c.closed = false →
      ∃ bits : List Bool, (bits.length : ℤ) = target ∧ c.pool.bits = .ok bits ∧
        (∀ bs, bits <+: byteBits bs → c.healthCheck = Report.ofSamples [bs] (some target)) ∧
        (∀ target' c', Reached target' c' → c'.finalized = true → c'.closed = false →
          c'.pool.bits = c.pool.bits → c'.healthCheck = c.healthCheck) ∧
        run (perform .healthCheck) c = (c.healthCheck.map Answer.report, c) := by
  refine ⟨fun R _ data data' n h h' => ⟨ofSample_congr h h', chiSquared_congr h h'⟩, ?_⟩
  intro target c hreached hc hclosed
  obtain ⟨rfl, vs, hholds⟩ := hreached.holds hclosed
  have hlength := hholds.length_take_stream hc
  have hbits := hholds.pool_holds.bits_eq
  refine ⟨_, congrArg Nat.cast hlength, hbits, fun bs hbs => hholds.reportIn_eq hc hbs, ?_,
    run_healthCheck c⟩
  intro target' c' hreached' hc' hclosed' hsame
  obtain ⟨-, vs', hholds'⟩ := hreached'.holds hclosed'
  have hlength' := hholds'.length_take_stream hc'
  rw [hbits, hholds'.pool_holds.bits_eq] at hsame
  have hstream := Except.ok.inj hsame
  have htarget : c'.target = c.target := by rw [← hlength, ← hlength', hstream]
  -- the bytes of one of the two sessions have the bits of both in front
  obtain ⟨bytes, -, -, hfront⟩ := hholds.entropyBytes_left hc
  have hbs : (c.source.stream c.correction vs).take c.target <+: byteBits bytes := by
    rw [hfront]
    exact List.prefix_append _ _
  rw [← reportIn_float, ← reportIn_float, hholds.reportIn_eq hc hbs,
    hholds'.reportIn_eq hc' (hstream ▸ hbs), htarget]

/-- Twelve bytes and a half: what is left of the thirteenth is not tested. -/
theorem tests_leading_bits_half :
    let actions : List Action := [.extend (List.replicate 13 (.outcome (.integer 7)))]
    ∃ fresh, create .byte 100 (some false) = .ok fresh ∧
      (fresh.performAll actions).healthCheck =
        Report.ofSamples [List.replicate 13 7] (some 100) ∧
      (Findings.ofSample (List.replicate 13 7) (some 100) : Except Error (Findings Float)) =
        Findings.ofSample (List.replicate 12 7 ++ [0, 255]) (some 100) := by
  intro actions
  obtain ⟨hsamples, hsessions⟩ := tests_leading_bits
  have hfresh : create .byte 100 (some false) =
    .ok ⟨.byte, 100, false, .empty, none, false, 0, 0, false⟩ := rfl
  refine ⟨_, hfresh, ?_, ?_⟩
  · obtain ⟨bits, -, hbits, htested, -⟩ :=
      hsessions 100 _ ⟨_, _, _, actions, hfresh, rfl⟩ (by decide +kernel) (by decide +kernel)
    have hcollected : ((⟨.byte, 100, false, .empty, none, false, 0, 0, false⟩ :
      Collector).performAll actions).pool.bits = .ok ((byteBits (List.replicate 13 7)).take 100) := by
      decide +kernel
    obtain rfl := Except.ok.inj (hbits.symm.trans hcollected)
    exact htested _ (List.take_prefix _ _)
  · exact (hsamples Float _ _ 100 (by decide) (by decide)).1 (by decide)

end Airgap.Entropy.Collector
