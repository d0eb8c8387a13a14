import Airgap.Entropy.Collector
import Airgap.Proofs.Entropy.Pool
import Airgap.Proofs.Entropy.Stream

/-!
# What a session is after its steps

* `run_onPool`, `run_finalize`, `run_settle`, `run_add`: what the steps do; `create_eq` is where they
  begin.
* `Collector.Holds`: an open session holds the first bits of the stream of its values, and its counters
  count them.
* `Holds.take`: one more value.
-/

namespace Airgap.Entropy.Collector

open Step

variable {c : Collector} {vs : List ℕ}

/-! ## Steps on a pool that holds bits -/

theorem run_onPool (f : Pool → Pool.Outcome) (c : Collector) :
    run (onPool f) c = ((f c.pool).2, { c with pool := (f c.pool).1 }) := by
  simp only [onPool, run_bind, run_get, run_set, run_ofExcept]

theorem run_finalize {bits : List Bool} (h : c.pool.Holds bits) :
    ∃ q : Pool, q.Holds (bits.take c.target) ∧
      run finalize c = (.ok ⟨⟩, { c with pool := q, pending := none, finalized := true }) := by
  obtain ⟨q, hq, hholds⟩ := h.truncate c.target
  refine ⟨q, hholds, ?_⟩
  simp only [finalize, run_bind, run_get, run_set, run_onPool, hq]

theorem run_settle {bits : List Bool} (h : c.pool.Holds bits) (before : ℤ) :
    ∃ q : Pool, q.Holds (bits.take c.target) ∧
      run (settle before) c = (.ok (q.length - before), { c with
        pool := q
        pending := if c.target ≤ bits.length then none else c.pending
        finalized := c.finalized || decide (c.target ≤ bits.length) }) := by
  by_cases hfull : c.target ≤ bits.length
  · obtain ⟨q, hholds, hrun⟩ := run_finalize h
    have hq : q.length = c.target := by
      rw [hholds.length_eq, List.length_take, Nat.min_eq_left hfull]
    have hpool : (c.target : ℤ) ≤ c.pool.length := by
      rw [h.length_eq]
      exact Int.ofNat_le.mpr hfull
    refine ⟨q, hholds, ?_⟩
    simp only [settle, run_bind, run_get, run_pure, if_pos hpool, hrun, if_pos hfull, hq, min_self,
      decide_eq_true hfull, Bool.or_true]
  · have hpool : ¬ (c.target : ℤ) ≤ c.pool.length := by
      rw [h.length_eq]
      omega
    refine ⟨c.pool, by rwa [List.take_of_length_le (by omega)], ?_⟩
    simp only [settle, run_bind, run_get, run_pure, if_neg hpool, if_neg hfull,
      min_eq_left (Int.le_of_lt (Int.not_le.mp hpool)), decide_eq_false hfull, Bool.or_false]

/-- What an observation leads to: a refusal, or a value that is taken in. -/
theorem run_add (o : Observation) (c : Collector) :
    run (add o) c =
      if c.finalized then (.error .finalized, c)
      else if (o.toEvent c.source).source ≠ c.source then
        (.error (.foreignSource c.source (o.toEvent c.source).source), c)
      else match (o.toEvent c.source).value with
        | .error e => (.error e, c)
        | .ok v => run (take v) { c with events := c.events + 1 } := by
  simp only [add, run_bind, run_get]
  split
  · rfl
  · split
    · rfl
    · simp only [run_bind, run_ofExcept, run_set]
      cases (o.toEvent c.source).value <;> rfl

theorem create_eq {source : Source} {target : ℕ} (htarget : 0 < target) {correction : Option Bool}
    (hmode : correction.getD source.supportsCorrection = true → source.supportsCorrection = true) :
    create source target correction = .ok ⟨source, target,
      correction.getD source.supportsCorrection, .empty, none, false, 0, 0, false⟩ := by
  have hallowed :
      (correction.getD source.supportsCorrection && !source.supportsCorrection) = false := by
    cases hs : source.supportsCorrection with
    | true => rw [Bool.not_true, Bool.and_false]
    | false =>
      rw [hs] at hmode
      rw [Bool.not_false, Bool.and_true, Bool.eq_false_iff]
      exact fun h => Bool.false_ne_true (hmode h)
  rw [create, if_neg (by omega)]
  simp only [hallowed, Bool.false_eq_true, if_false, Int.toNat_natCast]

theorem create_eq_ok {source : Source} {target : ℤ} {correction : Option Bool}
    (h : create source target correction = .ok c) :
    0 < c.target ∧ (c.target : ℤ) = target ∧ c.source = source ∧ c.reset = c := by
  rw [create] at h
  split at h
  · cases h
  · dsimp only at h
    split at h
    · cases h
    · obtain rfl := Except.ok.inj h
      refine ⟨?_, ?_, rfl, rfl⟩
      · show 0 < target.toNat
        omega
      · show (target.toNat : ℤ) = target
        omega

/-! ## Open sessions -/

/-- An open session holds the first bits of the stream of its values. -/
structure Holds (c : Collector) (vs : List ℕ) : Prop where
  target_pos : 0 < c.target
  closed_eq : c.closed = false
  pool_holds : c.pool.Holds ((c.source.stream c.correction vs).take c.target)
  finalized_iff : c.finalized = true ↔ c.target ≤ (c.source.stream c.correction vs).length
  pending_eq : c.pending = if c.correction && !c.finalized then unpaired vs else none
  events_eq : c.events = vs.length
  discarded_eq : c.discarded = c.source.discards c.correction vs

/-- The session at the end of an event that brought bits, or none, before its pool is compared with
the target. -/
def ended (c : Collector) (bits : List Bool) (p : Pool) : Collector :=
  { c with
    pool := p
    pending := none
    events := c.events + 1
    discarded := if bits.isEmpty then c.discarded + 1 else c.discarded }

/-- A step in a session succeeded: it added as many bits as it answers, the session holds further
values, and its settings are the same. -/
def Took (c : Collector) (vs : List ℕ) (r : Except Error ℤ × Collector) : Prop :=
  ∃ n, r.1 = .ok n ∧ r.2.Holds vs ∧ r.2.pool.length = c.pool.length + n ∧ r.2.reset = c.reset

namespace Holds

theorem fresh (h : 0 < c.target) : c.reset.Holds [] where
  target_pos := h
  closed_eq := rfl
  pool_holds := by
    rw [Source.stream_nil, List.take_nil]
    exact Pool.holds_empty
  finalized_iff := by
    rw [Source.stream_nil]
    exact iff_of_false Bool.false_ne_true (Nat.not_le.mpr h)
  pending_eq := (ite_self none).symm
  events_eq := rfl
  discarded_eq := (Source.discards_nil _ _).symm

theorem length_lt (h : c.Holds vs) (hc : c.finalized = false) :
    (c.source.stream c.correction vs).length < c.target := by
  rw [← Nat.not_le, ← h.finalized_iff, hc]
  exact Bool.false_ne_true

theorem pool_holds_stream (h : c.Holds vs) (hc : c.finalized = false) :
    c.pool.Holds (c.source.stream c.correction vs) := by
  have hp := h.pool_holds
  rwa [List.take_of_length_le (Nat.le_of_lt (h.length_lt hc))] at hp

theorem settle (h : c.Holds vs) (hc : c.finalized = false) {v : ℕ} {bits : List Bool} {p : Pool}
    (hb : c.source.brought c.correction vs v = [bits])
    (hp : p.Holds (c.source.stream c.correction vs ++ bits)) :
    c.Took (vs ++ [v]) (run (settle c.pool.length) (c.ended bits p)) := by
  have hstream :
      c.source.stream c.correction (vs ++ [v]) = c.source.stream c.correction vs ++ bits := by
    rw [Source.stream_concat, hb, List.flatten_singleton]
  obtain ⟨q, hq, hrun⟩ := run_settle (c := c.ended bits p) hp c.pool.length
  rw [← hstream] at hq hrun
  rw [hrun]
  refine ⟨q.length - c.pool.length, rfl, ?_, (add_sub_cancel _ _).symm, rfl⟩
  constructor
  case target_pos => exact h.target_pos
  case closed_eq => exact h.closed_eq
  case pool_holds => exact hq
  case finalized_iff => simp only [ended, hc, Bool.false_or, decide_eq_true_iff]
  case pending_eq =>
    -- no value waits after an event has ended, whether or not the target is reached
    show ite _ none none = _
    rw [ite_self]
    cases hcorr : c.correction with
    | false => simp [ended, hcorr]
    | true =>
      rw [hcorr] at hb
      rw [Source.unpaired_of_brought hb, ite_self]
  case events_eq => rw [List.length_append, ← h.events_eq]; rfl
  case discarded_eq =>
    show ite _ _ _ = c.source.discards c.correction _
    rw [Source.discards_concat, hb, List.countP_singleton, h.discarded_eq]
    cases bits <;> rfl

theorem take_raw (h : c.Holds vs) (hc : c.finalized = false) (hcorr : c.correction = false) (v : ℕ) :
    c.Took (vs ++ [v]) (run (take v) { c with events := c.events + 1 }) := by
  have hpool := h.pool_holds_stream hc
  have hb : c.source.brought c.correction vs v = [c.source.rawBits v] := by
    rw [Source.brought, hcorr]
    rfl
  have hpending : c.pending = none := by
    rw [h.pending_eq, hcorr]
    rfl
  by_cases hv : v < c.source.retained
  · -- a kept value has at least one bit, so it does not count as discarded
    have hne : (c.source.rawBits v).isEmpty = false := by
      rw [List.isEmpty_eq_false_iff, ne_eq, Source.rawBits_eq_nil, ← Source.retained_eq]
      exact Nat.not_le.mpr hv
    obtain ⟨p, hp, hholds⟩ := hpool.appendAll (c.source.rawBits v)
    have hend : { c with pool := p, events := c.events + 1 } = c.ended (c.source.rawBits v) p := by
      rw [ended, hne, hpending]
      rfl
    have hrun : run (Collector.take v) { c with events := c.events + 1 } =
        run (Collector.settle c.pool.length) (c.ended (c.source.rawBits v) p) := by
      rw [← hend]
      simp only [Collector.take, run_bind, run_get, hcorr, hv, run_onPool, Pool.appendBits,
        Int.toNat_natCast, Source.bitsOf_of_lt_retained hv, hp, if_true, Bool.false_eq_true, if_false]
    rw [hrun]
    exact h.settle hc hb hholds
  · have hbits : c.source.rawBits v = [] :=
      Source.rawBits_eq_nil.mpr (Source.retained_eq c.source ▸ Nat.not_lt.mp hv)
    have hrun : run (Collector.take v) { c with events := c.events + 1 } =
        run (Collector.settle c.pool.length) (c.ended [] c.pool) := by
      simp only [Collector.take, run_bind, run_get, run_set, hcorr, hv, if_false, Bool.false_eq_true,
        ended, List.isEmpty_nil, if_true, hpending]
    rw [hrun]
    rw [hbits] at hb
    exact h.settle hc hb (by rwa [List.append_nil])

theorem take_waiting (h : c.Holds vs) (hc : c.finalized = false) (hcorr : c.correction = true)
    (hw : unpaired vs = none) (v : ℕ) :
    c.Took (vs ++ [v]) (run (take v) { c with events := c.events + 1 }) := by
  have hpending : c.pending = none := by rw [h.pending_eq, hcorr, hc, hw]; rfl
  have hb : c.source.brought c.correction vs v = [] := by rw [Source.brought, hcorr, hw]; rfl
  have hstream : c.source.stream c.correction (vs ++ [v]) = c.source.stream c.correction vs := by
    rw [Source.stream_concat, hb, List.flatten_nil, List.append_nil]
  have hrun : run (Collector.take v) { c with events := c.events + 1 } =
      (.ok 0, { c with events := c.events + 1, pending := some v }) := by
    simp only [Collector.take, run_bind, run_get, run_set, run_pure, hcorr, hpending, if_true]
  rw [hrun]
  refine ⟨0, rfl, ?_, (add_zero _).symm, rfl⟩
  constructor
  case target_pos => exact h.target_pos
  case closed_eq => exact h.closed_eq
  case pool_holds => rw [hstream]; exact h.pool_holds
  case finalized_iff => rw [hstream]; exact h.finalized_iff
  case pending_eq => rw [hcorr, hc, unpaired_concat, hw]; rfl
  case events_eq => rw [List.length_append, ← h.events_eq]; rfl
  case discarded_eq => rw [Source.discards_concat, hb]; exact h.discarded_eq

theorem take_paired (h : c.Holds vs) (hc : c.finalized = false) (hcorr : c.correction = true)
    {first : ℕ} (hw : unpaired vs = some first) (v : ℕ) :
    c.Took (vs ++ [v]) (run (take v) { c with events := c.events + 1 }) := by
  have hpending : c.pending = some first := by rw [h.pending_eq, hcorr, hc, hw]; rfl
  have hb : c.source.brought c.correction vs v = [c.source.pairBits (first, v)] := by
    rw [Source.brought, hcorr, hw]
    rfl
  obtain ⟨p, hp, hholds⟩ := (h.pool_holds_stream hc).appendAll (c.source.pairBits (first, v))
  have hrun : run (Collector.take v) { c with events := c.events + 1 } =
      run (Collector.settle c.pool.length) (c.ended (c.source.pairBits (first, v)) p) := by
    simp only [Collector.take, run_bind, run_get, run_set, run_onPool, hcorr, hpending, if_true,
      Source.correctedPair_eq, hp, ended]
  rw [hrun]
  exact h.settle hc hb hholds

/-- **One more value** of the source. -/
theorem take (h : c.Holds vs) (hc : c.finalized = false) (v : ℕ) :
    c.Took (vs ++ [v]) (run (take v) { c with events := c.events + 1 }) := by
  rcases Bool.eq_false_or_eq_true c.correction with hcorr | hcorr
  · cases hw : unpaired vs with
    | none => exact h.take_waiting hc hcorr hw v
    | some first => exact h.take_paired hc hcorr hw v
  · exact h.take_raw hc hcorr v

theorem add (h : c.Holds vs) (hc : c.finalized = false) {o : Observation} {v : ℕ}
    (hsource : (o.toEvent c.source).source = c.source) (hv : (o.toEvent c.source).value = .ok v) :
    c.Took (vs ++ [v]) (run (add o) c) := by
  rw [run_add, if_neg (Bool.eq_false_iff.mp hc), if_neg (not_not.mpr hsource), hv]
  exact h.take hc v

end Holds

end Airgap.Entropy.Collector
