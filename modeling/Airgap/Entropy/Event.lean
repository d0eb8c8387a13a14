import Airgap.Error

/-!
# Observations

An operator enters outcomes as printed on the die; a source maps them to values from zero on.
-/

namespace Airgap.Entropy

/-- What an operator enters. -/
inductive Outcome where
  | integer (n : Int)
  /-- Anything that is no integer. -/
  | other
  deriving DecidableEq, Repr

/-- The value of an outcome, in `[0, arity)`. -/
def Source.value (s : Source) : Outcome → Except Error Nat
  | .other => .error (.notInteger s)
  | .integer n =>
    if s.first ≤ n ∧ n ≤ s.last then .ok (n - s.first).toNat else .error (.outcomeRange s n)

/-- An outcome and the source that it comes from. -/
structure Event where
  source : Source
  outcome : Outcome
  deriving DecidableEq, Repr

/-- The value of an event. -/
def Event.value (e : Event) : Except Error Nat := e.source.value e.outcome

/-- What a session is fed: an outcome that is taken for one of its own source, or an event. -/
inductive Observation where
  | outcome (o : Outcome)
  | event (e : Event)
  deriving DecidableEq, Repr

/-- The event that a session of a source takes an observation for. -/
def Observation.toEvent (own : Source) : Observation → Event
  | .outcome o => ⟨own, o⟩
  | .event e => e

end Airgap.Entropy
