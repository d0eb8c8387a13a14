import Airgap.Proofs.Entropy.Lifecycle

/-!
# What a session collects

* `Collector.Feeds`: calls that feed outcomes, one by one or several at once.
* `Collector.Fed`: a session took in the outcomes up to the one that completes its target.
* `Fed.add`, `Fed.extend`, `Fed.performAll`: one observation, one call, and any split into calls.
* `collected_stream`: the entropy of a session is the front of the stream of its outcomes.
-/

namespace Airgap.Entropy.Collector

open Step

variable {fresh c : Collector} {vs : List ℕ}

/-- Calls that feed outcomes of a source, one by one or several at once. -/
inductive Feeds (source : Source) : List Action → List ℤ → Prop
  | nil : Feeds source [] []
  | add {o : Observation} {n : ℤ} {actions : List Action} {ns : List ℤ}
    (ho : o.toEvent source = ⟨source, .integer n⟩) (rest : Feeds source actions ns) :
    Feeds source (.add o :: actions) (n :: ns)
  | extend {os : List Observation} {ms : List ℤ} {actions : List Action} {ns : List ℤ}
    (hos : os.map (·.toEvent source) = ms.map fun m => ⟨source, .integer m⟩)
    (rest : Feeds source actions ns) : Feeds source (.extend os :: actions) (ms ++ ns)

/-- A session that was begun as `fresh` took in the values up to the first with which their stream
reaches the target, or all of them. -/
structure Fed (fresh c : Collector) (vs : List ℕ) : Prop where
  reset_eq : c.reset = fresh
  taken : ∃ n ≤ vs.length, c.Holds (vs.take n) ∧ (c.finalized = false → n = vs.length) ∧
    ∀ m < n, (fresh.source.stream fresh.correction (vs.take m)).length < fresh.target

namespace Fed

theorem source_eq (h : Fed fresh c vs) : c.source = fresh.source := by
  rw [← h.reset_eq]
  rfl

theorem length_lt (h : Fed fresh c vs) (hc : c.finalized = false) (hholds : c.Holds vs) :
    (fresh.source.stream fresh.correction vs).length < fresh.target := by
  rw [← h.reset_eq]
  exact hholds.length_lt hc

theorem start (h : fresh.reset = fresh) (htarget : 0 < fresh.target) : Fed fresh fresh [] := by
  have hholds := Holds.fresh htarget
  rw [h] at hholds
  exact ⟨h, 0, Nat.le_refl 0, hholds, fun _ => rfl, fun m hm => absurd hm (Nat.not_lt_zero m)⟩

/-- What a finalized session is fed is not taken in. -/
theorem append (h : Fed fresh c vs) (hc : c.finalized = true) (ws : List ℕ) :
    Fed fresh c (vs ++ ws) := by
  obtain ⟨n, hn, hholds, -, hbefore⟩ := h.taken
  refine ⟨h.reset_eq, n, ?_, ?_, ?_, ?_⟩
  · rw [List.length_append]
    omega
  · rwa [List.take_append_of_le_length hn]
  · intro hopen
    exact absurd (hopen.symm.trans hc) Bool.false_ne_true
  · intro m hm
    rw [List.take_append_of_le_length (by omega)]
    exact hbefore m hm

theorem add (h : Fed fresh c vs) (hc : c.finalized = false) {o : Observation} {n : ℤ}
    (ho : o.toEvent fresh.source = ⟨fresh.source, .integer n⟩) (hn : fresh.source.Gives n) :
    ∃ k c', run (add o) c = (.ok k, c') ∧ Fed fresh c' (vs ++ [fresh.source.counted n]) := by
  obtain ⟨n', -, hholds, hall, hbefore⟩ := h.taken
  obtain rfl := hall hc
  rw [List.take_length] at hholds
  have hshort := h.length_lt hc hholds
  have hvalue : (o.toEvent fresh.source).value = .ok (fresh.source.counted n) := by
    rw [ho]
    exact hn.value_eq
  rw [← h.source_eq] at ho hvalue
  obtain ⟨k, hk, hholds', -, hsame⟩ := hholds.add hc (by rw [ho]) hvalue
  rw [h.source_eq] at hholds'
  refine ⟨k, _, Prod.ext hk rfl, hsame.trans h.reset_eq, vs.length + 1, ?_, ?_, ?_, ?_⟩
  · rw [List.length_append]
    rfl
  · rwa [List.take_of_length_le (by rw [List.length_append]; rfl)]
  · intro _
    rw [List.length_append]
    rfl
  · -- the session was still open with all values before, so the new one is the first candidate
    intro m hm
    rw [List.take_append_of_le_length (by omega)]
    rcases Nat.lt_or_ge m vs.length with hlt | hge
    · exact hbefore m hlt
    · rwa [List.take_of_length_le hge]

/-- Outcomes of the source are never refused. -/
theorem extend (h : Fed fresh c vs) {os : List Observation} {ns : List ℤ}
    (hos : os.map (·.toEvent fresh.source) = ns.map fun n => ⟨fresh.source, .integer n⟩)
    (hns : ∀ n ∈ ns, fresh.source.Gives n) :
    ∃ used c', run (extend os) c = (.ok used, c') ∧ Fed fresh c' (vs ++ fresh.source.values ns) := by
  induction os generalizing c vs ns with
  | nil =>
    obtain rfl : ns = [] := by simpa using hos
    rw [Source.values, List.map_nil, List.append_nil]
    exact ⟨0, c, rfl, h⟩
  | cons o os ih =>
    cases ns with
    | nil => cases hos
    | cons n ns =>
      rw [List.map_cons, List.map_cons, List.cons.injEq] at hos
      rcases Bool.eq_false_or_eq_true c.finalized with hc | hc
      · exact ⟨0, c, run_extend_of_finalized hc _, h.append hc _⟩
      · obtain ⟨k, c', hrun, hfed⟩ := h.add hc hos.1 (hns n List.mem_cons_self)
        obtain ⟨used, c'', hrest, hfed'⟩ := ih hfed hos.2 fun m hm => hns m (List.mem_cons_of_mem n hm)
        rw [List.append_assoc] at hfed'
        refine ⟨used + 1, c'', ?_, hfed'⟩
        rw [Collector.extend, run_bind, run_get]
        dsimp only
        rw [if_neg (Bool.eq_false_iff.mp hc), run_bind, hrun]
        dsimp only
        rw [run_bind, hrest]
        rfl

/-- **Any split into calls.** -/
theorem performAll (h : Fed fresh c vs) {actions : List Action} {ns : List ℤ}
    (hfeeds : Feeds fresh.source actions ns) (hns : ∀ n ∈ ns, fresh.source.Gives n) :
    Fed fresh (c.performAll actions) (vs ++ fresh.source.values ns) := by
  induction hfeeds generalizing c vs with
  | nil =>
    rw [Source.values, List.map_nil, List.append_nil]
    exact h
  | @add o n actions ns ho _ ih =>
    have hnext : Fed fresh (run (perform (.add o)) c).2 (vs ++ [fresh.source.counted n]) := by
      rw [perform, run_map_snd]
      rcases Bool.eq_false_or_eq_true c.finalized with hc | hc
      · rw [run_add, if_pos hc]
        exact h.append hc _
      · obtain ⟨k, c', hrun, hfed⟩ := h.add hc ho (hns n List.mem_cons_self)
        rwa [hrun]
    have hrest := ih hnext fun m hm => hns m (List.mem_cons_of_mem n hm)
    rwa [List.append_assoc] at hrest
  | @extend os ms actions ns hos _ ih =>
    have hnext : Fed fresh (run (perform (.extend os)) c).2 (vs ++ fresh.source.values ms) := by
      obtain ⟨used, c', hrun, hfed⟩ := h.extend hos fun m hm => hns m (List.mem_append_left ns hm)
      rw [perform, run_map_snd, hrun]
      exact hfed
    have hrest := ih hnext fun m hm => hns m (List.mem_append_right ms hm)
    rw [List.append_assoc] at hrest
    rwa [Source.values, List.map_append]

end Fed

/-! ## Entropy -/

namespace Holds

variable (h : c.Holds vs) (hc : c.finalized = true)

include h hc

theorem length_take_stream :
    ((c.source.stream c.correction vs).take c.target).length = c.target := by
  rw [List.length_take, Nat.min_eq_left (h.finalized_iff.mp hc)]

theorem entropyBytes_eq (align : Alignment) :
    c.entropyBytes (some align) = c.pool.toBytes c.target (some align) := by
  have hlength : c.pool.length = c.target := by
    rw [h.pool_holds.length_eq, h.length_take_stream hc]
  rw [entropyBytes, h.closed_eq, hc, hlength]
  rfl

theorem entropyBytes_left :
    ∃ bs, c.entropyBytes (some .left) = .ok bs ∧ bs.length = (c.target + 7) / 8 ∧
      byteBits bs = (c.source.stream c.correction vs).take c.target ++
        List.replicate (spare c.target) false := by
  have hlength := h.length_take_stream hc
  rw [h.entropyBytes_eq hc]
  obtain ⟨bs, hbs, hsize, hbits⟩ := h.pool_holds.toBytes_left (Nat.le_of_eq hlength.symm)
  rw [List.take_of_length_le (Nat.le_of_eq hlength)] at hbits
  exact ⟨bs, hbs, hsize, hbits⟩

theorem entropyBytes_right :
    ∃ bs, c.entropyBytes (some .right) = .ok bs ∧ bs.length = (c.target + 7) / 8 ∧
      bs.toNat = number ((c.source.stream c.correction vs).take c.target) := by
  have hlength := h.length_take_stream hc
  rw [h.entropyBytes_eq hc]
  obtain ⟨bs, hbs, hsize, hvalue⟩ := h.pool_holds.toBytes_right (Nat.le_of_eq hlength.symm)
  rw [List.take_of_length_le (Nat.le_of_eq hlength)] at hvalue
  exact ⟨bs, hbs, hsize, hvalue⟩

/-- A session that is long enough to be tested can be tested. -/
theorem exists_report (hmin : Health.minSampleBits ≤ c.target) :
    ∃ report, c.healthCheck = .ok report := by
  have hlength : c.pool.length = c.target := by
    rw [h.pool_holds.length_eq, h.length_take_stream hc]
  obtain ⟨bs, hbs, hsize, -⟩ := h.entropyBytes_left hc
  have hfits : ¬ 8 * (bs.length : ℤ) < c.target := by omega
  have hlong : ¬ (c.target : ℤ) < Health.minSampleBits := by omega
  refine ⟨⟨[.ofBits ((byteBits bs).take c.target) (bs.take (c.target / 8))], c.target⟩, ?_⟩
  rw [healthCheck, hbs, ok_bind, hlength, Health.Report.ofSamples, List.mapM_cons, List.mapM_nil,
    Health.Findings.ofSample, Health.testedBits, Option.getD_some, if_neg hfits, if_neg hlong]
  rfl

end Holds

namespace Fed

/-- While the target is not reached, all outcomes are taken in. -/
theorem collecting (h : Fed fresh c vs)
    (hshort : (fresh.source.stream fresh.correction vs).length < fresh.target) :
    c.finalized = false ∧ c.pool.Holds (fresh.source.stream fresh.correction vs) ∧
      c.events = vs.length ∧ c.discarded = fresh.source.discards fresh.correction vs := by
  obtain ⟨rfl, n, hn, hholds, hall, -⟩ := h
  have hc : c.finalized = false := by
    rw [Bool.eq_false_iff]
    intro hc
    have hreached := hholds.finalized_iff.mp hc
    have hmore : (c.source.stream c.correction (vs.take n)).length ≤
        (c.source.stream c.correction (vs.take n ++ vs.drop n)).length :=
      (Source.stream_isPrefix _ _).length_le
    rw [List.take_append_drop] at hmore
    exact absurd hshort (Nat.not_lt.mpr (Nat.le_trans hreached hmore))
  obtain rfl := hall hc
  rw [List.take_length] at hholds
  exact ⟨hc, hholds.pool_holds_stream hc, hholds.events_eq, hholds.discarded_eq⟩

/-- With the outcome that completes the target, the session ends. -/
theorem complete (h : Fed fresh c vs)
    (hreached : fresh.target ≤ (fresh.source.stream fresh.correction vs).length) :
    ∃ n ≤ vs.length,
      (∀ m < n, (fresh.source.stream fresh.correction (vs.take m)).length < fresh.target) ∧
      fresh.target ≤ (fresh.source.stream fresh.correction (vs.take n)).length ∧
      c.finalized = true ∧ c.events = n ∧
      c.discarded = fresh.source.discards fresh.correction (vs.take n) ∧
      (∃ bs, c.entropyBytes (some .left) = .ok bs ∧ bs.length = (fresh.target + 7) / 8 ∧
        byteBits bs = (fresh.source.stream fresh.correction (vs.take n)).take fresh.target ++
          List.replicate (spare fresh.target) false) ∧
      ∃ bs, c.entropyBytes (some .right) = .ok bs ∧ bs.length = (fresh.target + 7) / 8 ∧
        bs.toNat = number ((fresh.source.stream fresh.correction (vs.take n)).take fresh.target) := by
  obtain ⟨rfl, n, hn, hholds, hall, hbefore⟩ := h
  have hc : c.finalized = true := by
    rw [← Bool.not_eq_false]
    intro hc
    obtain rfl := hall hc
    rw [List.take_length] at hholds
    exact absurd hreached (Nat.not_le.mpr (hholds.length_lt hc))
  have hevents : c.events = n := by rw [hholds.events_eq, List.length_take, Nat.min_eq_left hn]
  exact ⟨n, hn, hbefore, hholds.finalized_iff.mp hc, hc, hevents, hholds.discarded_eq,
    hholds.entropyBytes_left hc, hholds.entropyBytes_right hc⟩

/-- The bits of a session that is long enough to be tested, as a number, and their report. -/
theorem exists_report (h : Fed fresh c vs)
    (hreached : fresh.target ≤ (fresh.source.stream fresh.correction vs).length)
    (hmin : Health.minSampleBits ≤ fresh.target) :
    ∃ bs report, c.entropyBytes (some .right) = .ok bs ∧ bs.length = (fresh.target + 7) / 8 ∧
      bs.toNat = number ((fresh.source.stream fresh.correction vs).take fresh.target) ∧
      c.healthCheck = .ok report := by
  obtain ⟨n, -, -, hfull, hc, -, -, -, bs, hbs, hsize, hnumber⟩ := h.complete hreached
  obtain ⟨m, -, hholds, -⟩ := h.taken
  have htarget : c.target = fresh.target := by
    rw [← h.reset_eq]
    rfl
  obtain ⟨report, hreport⟩ := hholds.exists_report hc (by rwa [htarget])
  refine ⟨bs, report, hbs, hsize, ?_, hreport⟩
  obtain ⟨more, hmore⟩ :=
    @Source.stream_isPrefix fresh.source fresh.correction (vs.take n) (vs.drop n)
  rw [List.take_append_drop] at hmore
  rw [hnumber, ← hmore, List.take_append_of_le_length hfull]

end Fed

/-- **What a session collects**, however its outcomes are split into calls. It is finalized with the
first outcome that completes the target in the stream of bits; its bytes are then the front of the
stream, and its counters count the outcomes up to that one. -/
theorem collected_stream {source : Source} {target : ℕ} (htarget : 0 < target) {mode : Option Bool}
    (hmode : mode.getD source.supportsCorrection = true → source.supportsCorrection = true)
    {actions : List Action} {outcomes : List ℤ} (houtcomes : ∀ n ∈ outcomes, source.Gives n)
    (hfeeds : Feeds source actions outcomes) :
    let correction := mode.getD source.supportsCorrection
    let values := source.values outcomes
    let stream (n : ℕ) := source.stream correction (values.take n)
    ∃ fresh, create source target mode = .ok fresh ∧
      let c := fresh.performAll actions
      ((source.stream correction values).length < target →
        c.finalized = false ∧ c.pool.Holds (source.stream correction values) ∧
        c.events = outcomes.length ∧ c.discarded = source.discards correction values) ∧
      (target ≤ (source.stream correction values).length → ∃ n ≤ outcomes.length,
        (∀ m < n, (stream m).length < target) ∧ target ≤ (stream n).length ∧
        c.finalized = true ∧ c.events = n ∧
        c.discarded = source.discards correction (values.take n) ∧
        (∃ bs, c.entropyBytes (some .left) = .ok bs ∧ bs.length = (target + 7) / 8 ∧
          byteBits bs = (stream n).take target ++ List.replicate (spare target) false) ∧
        ∃ bs, c.entropyBytes (some .right) = .ok bs ∧ bs.length = (target + 7) / 8 ∧
          bs.toNat = number ((stream n).take target)) ∧
      (source = .coin → correction = true →
        correctedNumbers outcomes = .ok (source.stream correction values)) := by
  intro correction values stream
  refine ⟨_, create_eq htarget hmode, ?_⟩
  intro c
  have hlength : values.length = outcomes.length := List.length_map _
  have hfed : Fed ⟨source, target, correction, .empty, none, false, 0, 0, false⟩ c values :=
    (Fed.start rfl htarget).performAll hfeeds houtcomes
  rw [← hlength]
  refine ⟨hfed.collecting, hfed.complete, ?_⟩
  rintro rfl hcorrection
  rw [hcorrection]
  exact Source.correctedNumbers_eq houtcomes

/-- The second of three outcomes brings two bits more than the target. -/
theorem collected_stream_overshoot :
    let actions : List Action := [.add (.outcome (.integer 8)),
      .extend [.event ⟨.d8, .integer 3⟩, .outcome (.integer 1)]]
    ∃ fresh, create .d8 (4 : ℕ) (some false) = .ok fresh ∧
      let c := fresh.performAll actions
      c.finalized = true ∧ c.events = 2 ∧ c.discarded = 0 ∧
      (∃ bs, c.entropyBytes (some .left) = .ok bs ∧
        byteBits bs = [true, true, true, false, false, false, false, false]) ∧
      ∃ bs, c.entropyBytes (some .right) = .ok bs ∧ bs.toNat = 14 := by
  intro actions
  have hfeeds : Feeds .d8 actions [8, 3, 1] :=
    .add rfl (@Feeds.extend .d8 _ [3, 1] _ [] rfl .nil)
  obtain ⟨fresh, hfresh, -, hcomplete, -⟩ := @collected_stream .d8 4 (by decide) (some false)
    (by decide) actions [8, 3, 1] (by decide) hfeeds
  obtain ⟨n, hn, hbefore, hreached, hc, hevents, hdiscarded, ⟨left, hleft, -, hbits⟩,
    ⟨right, hright, -, hnumber⟩⟩ := hcomplete (by decide)
  have htwo : n = 2 := by
    rcases Nat.lt_trichotomy n 2 with hlt | heq | hgt
    · rcases n with _ | _ | n
      · exact absurd hreached (by decide)
      · exact absurd hreached (by decide)
      · omega
    · exact heq
    · exact absurd (hbefore 2 hgt) (by decide)
  subst htwo
  exact ⟨fresh, hfresh, hc, hevents, hdiscarded, ⟨left, hleft, hbits⟩, ⟨right, hright, hnumber⟩⟩

end Airgap.Entropy.Collector
