import Airgap.Entropy.Event
import Airgap.Entropy.Pool
import Airgap.Entropy.VonNeumann
import Airgap.Health.Report

/-!
# Collecting entropy

A session turns outcomes of one source into bits, until it has as many as it was asked for; then it
is finalized, and its bits can be read and tested until it is closed.

* `Collector.create`, `Collector.add`, `Collector.extend`.
* `Collector.entropyBytes`, `Collector.healthCheck`.
* `Collector.close`, `Collector.reset`.
* `Collector.perform`: all of these as actions on one session, some of which may fail.
-/

namespace Airgap.Entropy

/-- A session. -/
structure Collector where
  source : Source
  target : Nat
  /-- Whether pairs of outcomes are corrected for bias. -/
  correction : Bool
  pool : Pool
  /-- The value that waits for its partner. -/
  pending : Option Nat
  finalized : Bool
  events : Nat
  /-- The events or pairs that yielded no bit. -/
  discarded : Nat
  closed : Bool
  deriving DecidableEq, Repr

namespace Collector

/-- A fresh session for `target` bits. Unless told otherwise it corrects for bias if the source
allows that. -/
def create (source : Source) (target : Int) (correction : Option Bool) : Except Error Collector :=
  if target < 1 then .error .targetBits
  else
    let correction := correction.getD source.supportsCorrection
    if correction && !source.supportsCorrection then .error (.correctionUnsupported source)
    else .ok ⟨source, target.toNat, correction, .empty, none, false, 0, 0, false⟩

/-- The bits still missing. -/
def remaining (c : Collector) : Int := max 0 (c.target - c.pool.length)

/-! ## Steps -/

/-- Steps that change a session and may fail; what was changed before a failure stays changed. -/
abbrev Step := ExceptT Error (StateM Collector)

namespace Step

variable {α β : Type}

/-- What a step answers in a session, and the session that it leaves. -/
def run (x : Step α) (c : Collector) : Except Error α × Collector := (ExceptT.run x).run c

@[simp] theorem run_pure (a : α) (c : Collector) : run (pure a) c = (.ok a, c) := rfl

@[simp] theorem run_throw (e : Error) (c : Collector) :
    run (throw e : Step α) c = (.error e, c) := rfl

@[simp] theorem run_ofExcept (x : Except Error α) (c : Collector) :
    run (ofExcept x) c = (x, c) := by cases x <;> rfl

@[simp] theorem run_get (c : Collector) : run get c = (.ok c, c) := rfl

@[simp] theorem run_set (c c' : Collector) : run (set c') c = (.ok ⟨⟩, c') := rfl

theorem run_bind (x : Step α) (f : α → Step β) (c : Collector) :
    run (x >>= f) c =
      match run x c with
      | (.ok a, c') => run (f a) c'
      | (.error e, c') => (.error e, c') := by
  show StateT.run (ExceptT.run (x >>= f)) c = _
  rw [run]
  simp only [ExceptT.run_bind, StateT.run_bind]
  cases h : StateT.run (ExceptT.run x) c with
  | mk r c' => cases r <;> rfl

end Step

/-! ## Collecting -/

/-- An operation on the pool. -/
def onPool (f : Pool → Pool.Outcome) : Step Unit := do
  let c ← get
  let r := f c.pool
  set { c with pool := r.1 }
  ofExcept r.2

/-- The end of collecting: the pool is cut to the target. -/
def finalize : Step Unit := do
  let c ← get
  onPool (·.truncate c.target)
  let c ← get
  set { c with pending := none, finalized := true }

/-- The end of an event before which the pool had `before` bits: the target may be reached. Answers
how many bits the event added. -/
def settle (before : Int) : Step Int := do
  let c ← get
  if c.target ≤ c.pool.length then finalize
  let c ← get
  return min c.pool.length c.target - before

/-- Takes a value in. The first of a pair waits; all others end their event. -/
def take (value : Nat) : Step Int := do
  let c ← get
  let before := c.pool.length
  if c.correction then
    match c.pending with
    | none =>
      set { c with pending := some value }
      return 0
    | some first =>
      let bits := correctedPair c.source.bits first value
      let discarded := if bits.isEmpty then c.discarded + 1 else c.discarded
      set { c with pending := none, discarded := discarded }
      onPool (·.appendAll bits)
      settle before
  else if value < c.source.retained then
    onPool (·.appendBits value c.source.bits)
    settle before
  else
    set { c with discarded := c.discarded + 1 }
    settle before

/-- Feeds an observation, and answers how many bits it added. -/
def add (o : Observation) : Step Int := do
  let c ← get
  let event := o.toEvent c.source
  if c.finalized then throw .finalized
  else if event.source ≠ c.source then throw (.foreignSource c.source event.source)
  else
    let value ← ofExcept event.value
    set { c with events := c.events + 1 }
    take value

/-- Feeds observations until the session is finalized or one of them fails, and answers how many
were used. -/
def extend : List Observation → Step Nat
  | [] => return 0
  | o :: os => do
    let c ← get
    if c.finalized then return 0
    else
      let _ ← add o
      let used ← extend os
      return used + 1

/-! ## Reading and finishing -/

/-- The bits of a finalized session. -/
def entropyBytes (c : Collector) (align : Option Alignment) : Except Error Bytes :=
  if c.closed then .error .closed
  else if !c.finalized then .error (.notReady c.pool.length c.target)
  else c.pool.toBytes c.pool.length align

/-- The statistical tests of the bits of a finalized session. -/
def healthCheck (c : Collector) : Except Error (Health.Report Float) := do
  let bytes ← c.entropyBytes (some .left)
  Health.Report.ofSamples [bytes] (some c.pool.length)

/-- The session wiped and finished. -/
def close (c : Collector) : Collector :=
  { c with pool := c.pool.clear, pending := none, finalized := true, closed := true }

/-- The session wiped and begun again. -/
def reset (c : Collector) : Collector :=
  { c with
    pool := c.pool.clear
    pending := none
    finalized := false
    events := 0
    discarded := 0
    closed := false }

/-! ## All that a session is asked -/

/-- What a session is asked. -/
inductive Action where
  | add (o : Observation)
  | extend (os : List Observation)
  | entropy
  | entropyBytes (align : Option Alignment)
  | healthCheck
  | close
  | reset
  /-- The end of a block that the session was opened for. -/
  | exit

/-- What an action answers. -/
inductive Answer where
  /-- Bits added. -/
  | added (n : Int)
  /-- Observations used. -/
  | used (n : Nat)
  | bytes (bs : Bytes)
  | report (r : Health.Report Float)
  | done

/-- Performs an action. -/
def perform : Action → Step Answer
  | .add o => do return .added (← add o)
  | .extend os => do return .used (← extend os)
  | .entropy => do return .bytes (← ofExcept ((← get).entropyBytes (some .left)))
  | .entropyBytes align => do return .bytes (← ofExcept ((← get).entropyBytes align))
  | .healthCheck => do return .report (← ofExcept (← get).healthCheck)
  | .close | .exit => do
    set (← get).close
    return .done
  | .reset => do
    set (← get).reset
    return .done

/-- The session that a sequence of actions leaves, whether or not they fail. -/
def performAll (c : Collector) (actions : List Action) : Collector :=
  actions.foldl (fun c action => ((perform action).run c).2) c

end Collector

end Airgap.Entropy
