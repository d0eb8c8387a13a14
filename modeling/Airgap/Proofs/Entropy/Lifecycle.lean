import Airgap.Proofs.Entropy.Collector

/-!
# The life of a session

* `Collector.WellFormed`: a session is wiped and closed, or open and holds the values that it took in.
* `WellFormed.perform`, `WellFormed.performAll`: actions in any order keep it so, and keep the
  settings, which `Collector.reset` shows.
* `perform_of_finalized`: what is finalized stays as it is until it is closed or reset.
* `session_invariant`: what holds after every sequence of actions.
-/

namespace Airgap.Entropy

theorem Source.value_eq_error {s : Source} {o : Outcome} {e : Error} (h : s.value o = .error e) :
    e.kind = .parameter ∧ ∀ n, o = .integer n → ¬ s.Gives n := by
  cases o with
  | other =>
    obtain rfl := Except.error.inj h
    refine ⟨rfl, fun n hn => ?_⟩
    cases hn
  | integer m =>
    rw [Source.value] at h
    split at h
    · cases h
    · rename_i hm
      obtain rfl := Except.error.inj h
      refine ⟨rfl, fun n hn => ?_⟩
      obtain rfl := Outcome.integer.inj hn
      exact hm

namespace Collector

open Step

variable {c : Collector}

/-- A session is wiped and closed, or open and holds the values that it took in. -/
inductive WellFormed (c : Collector) : Prop
  | wiped (target_pos : 0 < c.target) (closed_eq : c.closed = true)
    (finalized_eq : c.finalized = true) (pool_eq : c.pool = .empty) (pending_eq : c.pending = none)
  | collected {vs : List ℕ} (holds : c.Holds vs)

/-- An action that ends a session, or begins it again. -/
def Action.ends : Action → Bool
  | .close | .reset | .exit => true
  | _ => false

/-- Why an observation is refused. -/
inductive Refuses (c : Collector) (o : Observation) : Error → Prop
  | finalized (h : c.finalized = true) : Refuses c o .finalized
  | foreign (hc : c.finalized = false) (h : (o.toEvent c.source).source ≠ c.source) :
    Refuses c o (.foreignSource c.source (o.toEvent c.source).source)
  | outcome {e : Error} (hc : c.finalized = false) (hsource : (o.toEvent c.source).source = c.source)
    (h : c.source.value (o.toEvent c.source).outcome = .error e) : Refuses c o e

/-- A finalized session refuses for its state, an open one for the parameter. -/
theorem Refuses.kind {o : Observation} {e : Error} (h : c.Refuses o e) :
    c.finalized = true ∧ e.kind = .state ∨
    c.finalized = false ∧ e.kind = .parameter ∧ ((o.toEvent c.source).source ≠ c.source ∨
      ∀ n, (o.toEvent c.source).outcome = .integer n → ¬ c.source.Gives n) := by
  cases h with
  | finalized h => exact .inl ⟨h, rfl⟩
  | foreign hc h => exact .inr ⟨hc, rfl, .inl h⟩
  | outcome hc _ h =>
    obtain ⟨hkind, hgives⟩ := Source.value_eq_error h
    exact .inr ⟨hc, hkind, .inr hgives⟩

namespace WellFormed

theorem target_pos (h : c.WellFormed) : 0 < c.target := by
  cases h with
  | wiped target_pos => exact target_pos
  | collected holds => exact holds.target_pos

theorem holds (h : c.WellFormed) (hc : c.finalized = false) : ∃ vs, c.Holds vs := by
  cases h with
  | wiped _ _ finalized_eq => exact absurd (hc.symm.trans finalized_eq) Bool.false_ne_true
  | collected holds => exact ⟨_, holds⟩

theorem close (h : c.WellFormed) : c.close.WellFormed := .wiped h.target_pos rfl rfl rfl rfl

theorem reset (h : c.WellFormed) : c.reset.WellFormed := .collected (.fresh h.target_pos)

/-- **One observation** is taken in or refused, and a refusal changes nothing. -/
theorem add_cases (h : c.WellFormed) (o : Observation) :
    (∃ vs, c.Took vs (run (add o) c)) ∨ ∃ e, run (add o) c = (.error e, c) ∧ c.Refuses o e := by
  rw [run_add]
  by_cases hc : c.finalized = true
  · rw [if_pos hc]
    exact .inr ⟨_, rfl, .finalized hc⟩
  · have hopen : c.finalized = false := Bool.eq_false_iff.mpr hc
    rw [if_neg hc]
    by_cases hsource : (o.toEvent c.source).source = c.source
    · rw [if_neg (not_not.mpr hsource)]
      cases hv : (o.toEvent c.source).value with
      | error e =>
        rw [Event.value, hsource] at hv
        exact .inr ⟨e, rfl, .outcome hopen hsource hv⟩
      | ok v =>
        obtain ⟨vs, hholds⟩ := h.holds hopen
        exact .inl ⟨vs ++ [v], hholds.take hopen v⟩
    · rw [if_pos hsource]
      exact .inr ⟨_, rfl, .foreign hopen hsource⟩

theorem collecting (h : c.WellFormed) (hc : c.finalized = false) :
    c.closed = false ∧ c.pool.length < c.target := by
  obtain ⟨vs, hholds⟩ := h.holds hc
  have hlt := hholds.length_lt hc
  rw [(hholds.pool_holds_stream hc).length_eq]
  exact ⟨hholds.closed_eq, Int.ofNat_lt.mpr hlt⟩

theorem full (h : c.WellFormed) (hc : c.finalized = true) (hopen : c.closed = false) :
    c.pool.length = c.target ∧ c.pending = none := by
  cases h with
  | wiped _ closed_eq => exact absurd (hopen.symm.trans closed_eq) Bool.false_ne_true
  | collected holds =>
    have hle := holds.finalized_iff.mp hc
    rw [holds.pool_holds.length_eq, List.length_take, Nat.min_eq_left hle, holds.pending_eq, hc]
    simp

theorem closed (h : c.WellFormed) (hc : c.closed = true) :
    c.finalized = true ∧ c.pool = .empty ∧ c.pending = none := by
  cases h with
  | wiped _ _ finalized_eq pool_eq pending_eq => exact ⟨finalized_eq, pool_eq, pending_eq⟩
  | collected holds => exact absurd (holds.closed_eq.symm.trans hc) Bool.false_ne_true

theorem waiting (h : c.WellFormed) (hp : c.pending ≠ none) :
    c.finalized = false ∧ c.correction = true := by
  cases h with
  | wiped _ _ _ _ pending_eq => exact absurd pending_eq hp
  | collected holds =>
    rw [holds.pending_eq] at hp
    split at hp
    · rename_i hwaits
      simpa [and_comm] using hwaits
    · exact absurd rfl hp

end WellFormed

/-! ## Actions -/

theorem run_map_snd {α β : Type} (x : Step α) (f : α → β) (c : Collector) :
    (run (do return f (← x)) c).2 = (run x c).2 := by
  rw [run_bind]
  split
  · rename_i h
    rw [h]
    rfl
  · rename_i h
    rw [h]

theorem run_reading_snd {α β : Type} (read : Collector → Except Error α) (f : α → β) (c : Collector) :
    (run (do return f (← ofExcept (read (← get)))) c).2 = c := by
  rw [run_bind, run_get]
  show (run (do return f (← ofExcept (read c))) c).2 = c
  rw [run_map_snd, run_ofExcept]

theorem run_extend_of_finalized (hc : c.finalized = true) (os : List Observation) :
    run (extend os) c = (.ok 0, c) := by
  cases os with
  | nil => rfl
  | cons o os =>
    rw [extend, run_bind, run_get]
    exact congrArg (fun x : Step Nat => run x c) (if_pos hc)

theorem run_extend_cons (hc : c.finalized = false) (o : Observation) (os : List Observation) :
    (run (extend (o :: os)) c).2 = match run (add o) c with
      | (.ok _, c') => (run (extend os) c').2
      | (.error _, c') => c' := by
  rw [extend, run_bind, run_get]
  dsimp only
  rw [if_neg (Bool.eq_false_iff.mp hc), run_bind]
  rcases run (add o) c with ⟨e | k, c'⟩
  · rfl
  · exact run_map_snd _ _ _

/-- Whatever a session keeps under each observation it keeps under any number of them. -/
theorem extend_induction {P : Collector → Prop} {os : List Observation}
    (hadd : ∀ c, ∀ o ∈ os, P c → P (run (add o) c).2) (h : P c) : P (run (extend os) c).2 := by
  induction os generalizing c with
  | nil => exact h
  | cons o os ih =>
    rcases Bool.eq_false_or_eq_true c.finalized with hc | hc
    · rwa [run_extend_of_finalized hc]
    · have hnext := hadd c o List.mem_cons_self h
      rw [run_extend_cons hc]
      split
      · rename_i hrun
        rw [hrun] at hnext
        exact ih (fun c o ho => hadd c o (List.mem_cons_of_mem _ ho)) hnext
      · rename_i hrun
        rwa [hrun] at hnext

/-- The states that a session of the same settings can reach. -/
def Reaches (c c' : Collector) : Prop := c'.WellFormed ∧ c'.reset = c.reset

theorem WellFormed.add_reaches (h : c.WellFormed) (o : Observation) :
    c.Reaches (run (add o) c).2 := by
  rcases h.add_cases o with ⟨vs, n, -, hholds, -, hreset⟩ | ⟨e, he, -⟩
  · exact ⟨.collected hholds, hreset⟩
  · rw [he]
    exact ⟨h, rfl⟩

/-- **One action** keeps a session well-formed, and its settings. -/
theorem WellFormed.perform (h : c.WellFormed) (action : Action) :
    c.Reaches (run (perform action) c).2 := by
  cases action with
  | add o =>
    rw [Collector.perform, run_map_snd]
    exact h.add_reaches o
  | extend os =>
    rw [Collector.perform, run_map_snd]
    refine extend_induction (P := c.Reaches) (fun c' o _ hc' => ?_) ⟨h, rfl⟩
    obtain ⟨hnext, hreset⟩ := hc'.1.add_reaches o
    exact ⟨hnext, hreset.trans hc'.2⟩
  | entropy =>
    rw [Collector.perform, run_reading_snd]
    exact ⟨h, rfl⟩
  | entropyBytes align =>
    rw [Collector.perform, run_reading_snd]
    exact ⟨h, rfl⟩
  | healthCheck =>
    rw [Collector.perform, run_reading_snd]
    exact ⟨h, rfl⟩
  | close | exit => exact ⟨h.close, rfl⟩
  | reset => exact ⟨h.reset, rfl⟩

/-- **A sequence of actions** does the same. -/
theorem WellFormed.performAll (h : c.WellFormed) (actions : List Action) :
    c.Reaches (c.performAll actions) := by
  induction actions generalizing c with
  | nil => exact ⟨h, rfl⟩
  | cons action actions ih =>
    obtain ⟨hnext, hreset⟩ := h.perform action
    obtain ⟨hlast, hreset'⟩ := ih hnext
    exact ⟨hlast, hreset'.trans hreset⟩

/-! ## Finalized sessions -/

/-- What is finalized stays as it is until it is ended or begun again. -/
theorem perform_of_finalized (hc : c.finalized = true) {action : Action} (h : action.ends = false) :
    (run (perform action) c).2 = c := by
  cases action with
  | add o => rw [perform, run_map_snd, run_add, if_pos hc]
  | extend os => rw [perform, run_map_snd, run_extend_of_finalized hc]
  | entropy | entropyBytes align | healthCheck => rw [perform, run_reading_snd]
  | close | exit | reset => cases h

theorem performAll_of_finalized (hc : c.finalized = true) {actions : List Action}
    (h : ∀ action ∈ actions, action.ends = false) : c.performAll actions = c := by
  induction actions with
  | nil => rfl
  | cons action actions ih =>
    rw [performAll, List.foldl_cons, perform_of_finalized hc (h action List.mem_cons_self)]
    exact ih fun a ha => h a (List.mem_cons_of_mem action ha)

/-! ## All that holds of a session -/

/-- **After every sequence of actions**, whether or not they failed: how the state, the pool and the
waiting value go together; an observation adds the bits that it answers, or is refused and changes
nothing; what is finalized answers the same until it is ended; and a reset begins anew. -/
theorem session_invariant {source : Source} {target : ℤ} {correction : Option Bool}
    {fresh : Collector} (hfresh : create source target correction = .ok fresh)
    (actions : List Action) :
    let c := fresh.performAll actions
    (c.finalized = false → c.closed = false ∧ c.pool.length < target) ∧
    (c.finalized = true → c.closed = false → c.pool.length = target ∧ c.pending = none) ∧
    (c.closed = true → c.finalized = true ∧ c.pool = .empty ∧ c.pending = none) ∧
    (c.pending ≠ none → c.finalized = false ∧ c.correction = true) ∧
    (∀ o, (∃ n c', run (add o) c = (.ok n, c') ∧ c'.pool.length = c.pool.length + n) ∨
      ∃ e, run (add o) c = (.error e, c) ∧
        (c.finalized = true ∧ e.kind = .state ∨
          c.finalized = false ∧ e.kind = .parameter ∧ ((o.toEvent source).source ≠ source ∨
            ∀ n, (o.toEvent source).outcome = .integer n → ¬ source.Gives n))) ∧
    (c.finalized = true → ∀ more : List Action, (∀ action ∈ more, action.ends = false) →
      ∀ align, (c.performAll more).entropyBytes align = c.entropyBytes align) ∧
    run (perform .reset) c = (.ok .done, fresh) := by
  intro c
  obtain ⟨hpos, htarget, hsource, hreset⟩ := create_eq_ok hfresh
  have hwell : fresh.WellFormed := hreset ▸ .collected (.fresh hpos)
  obtain ⟨h, hsame⟩ : fresh.Reaches c := hwell.performAll actions
  have hagain : c.reset = fresh := hsame.trans hreset
  have htarget' : (c.target : ℤ) = target := by
    rw [← htarget, ← hagain]
    rfl
  have hsource' : c.source = source := by
    rw [← hsource, ← hagain]
    rfl
  rw [← htarget', ← hsource']
  refine ⟨h.collecting, h.full, h.closed, h.waiting, fun o => ?_, fun hc more hmore align => ?_, ?_⟩
  · rcases h.add_cases o with ⟨vs, n, hn, -, hlength, -⟩ | ⟨e, he, hrefuses⟩
    · exact .inl ⟨n, _, Prod.ext hn rfl, hlength⟩
    · exact .inr ⟨e, he, hrefuses.kind⟩
  · rw [performAll_of_finalized hc hmore]
  · rw [← hagain]
    rfl

/-- A coin that was thrown once, after a die that is not taken for one: the value waits. -/
theorem session_invariant_waiting :
    let fresh : Collector := ⟨.coin, 2, true, .empty, none, false, 0, 0, false⟩
    let c := fresh.performAll [.add (.event ⟨.d6, .integer 1⟩), .add (.outcome (.integer 1))]
    create .coin 2 none = .ok fresh ∧ c.pending = some 1 ∧ c.finalized = false ∧
      c.correction = true ∧ c.pool.length < 2 ∧ run (perform .reset) c = (.ok .done, fresh) := by
  intro fresh c
  have hfresh : create .coin 2 none = .ok fresh := rfl
  have hpending : c.pending = some 1 := by decide
  obtain ⟨hcollecting, -, -, hwaiting, -, -, hreset⟩ := session_invariant hfresh
    [.add (.event ⟨.d6, .integer 1⟩), .add (.outcome (.integer 1))]
  obtain ⟨hc, hcorrection⟩ := hwaiting (by rw [hpending]; exact Option.some_ne_none 1)
  exact ⟨hfresh, hpending, hc, hcorrection, (hcollecting hc).2, hreset⟩

end Collector

end Airgap.Entropy
