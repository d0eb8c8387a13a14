import Airgap.Proofs.Entropy.Collection
import Airgap.Session.Wallet

/-!
# What a session hears

* `typedRolls`, `sessionRolls`: the rolls among typed lines, and those of a session.
* `hear_roll`, `hear_of_refused`: a roll is taken in, and all else leaves the session as it is.
* `exists_converse`, `exists_demonstrate`: a conversation with rolls enough and a demonstration lead to
  sessions that took their rolls in.
-/

namespace Airgap.Session

open Entropy (Collector Outcome Source)
open Entropy.Collector (Fed)

/-! ## Rolls -/

/-- The roll that a line is. -/
def rollOf? (line : String) : Option ℤ :=
  match readRoll line with
  | .ok (some (.integer n)) => if Source.d6.Gives n then some n else none
  | _ => none

/-- The rolls among typed lines. -/
def typedRolls (lines : List String) : List ℤ := lines.filterMap rollOf?

/-- The fixed rolls of a demonstration, as they are printed on the die. -/
def fixedRolls (target : ℕ) : List ℤ :=
  (List.replicate target [3, 1, 4, 1, 5, 2, 6, 2, 6, 5, 3, 5]).flatten

/-- The rolls of a session. -/
def sessionRolls (o : Options) (target : ℕ) (lines : List String) : List ℤ :=
  if o.demo then fixedRolls target else typedRolls lines

/-- The bits of rolls: two for each from one to four, none for five and six. -/
def rollBits (rolls : List ℤ) : List Bool := Source.d6.stream false (Source.d6.values rolls)

example : rollBits [1, 2, 5, 3, 6, 4] = [false, false, false, true, true, false, true, true] := by decide

theorem demoRolls_eq (target : ℕ) : demoRolls target = (fixedRolls target).map .integer := by
  rw [demoRolls, fixedRolls, List.map_flatten, List.map_replicate]
  rfl

theorem gives_of_mem_fixedRolls {target : ℕ} {n : ℤ} (hn : n ∈ fixedRolls target) :
    Source.d6.Gives n := by
  obtain ⟨cycle, hcycle, hn⟩ := List.mem_flatten.mp hn
  obtain rfl := List.eq_of_mem_replicate hcycle
  have hall : ∀ n ∈ [3, 1, 4, 1, 5, 2, 6, 2, 6, 5, 3, 5], Source.d6.Gives n := by decide
  exact hall n hn

/-! ## One line -/

theorem rollOf?_eq_some {line : String} {n : ℤ} (h : rollOf? line = some n) :
    readRoll line = .ok (some (.integer n)) ∧ Source.d6.Gives n := by
  unfold rollOf? at h
  split at h
  · rename_i m hm
    split at h
    · rename_i hgives
      obtain rfl := Option.some.inj h
      exact ⟨hm, hgives⟩
    · cases h
  · cases h

/-- What is no roll is refused by the die. -/
theorem value_of_rollOf?_eq_none {line : String} {roll : Outcome} (hread : readRoll line = .ok (some roll))
    (h : rollOf? line = none) : ∃ e, Source.d6.value roll = .error e := by
  rw [rollOf?, hread] at h
  cases roll with
  | other => exact ⟨_, rfl⟩
  | integer n =>
    dsimp only at h
    split at h
    · cases h
    · rename_i hn
      exact ⟨_, if_neg hn⟩

/-- A refusal is reported, and the session is as it was. -/
theorem hear_of_refused {c : Collector} (hsource : c.source = .d6) (hc : c.finalized = false)
    {roll : Outcome} {e : Error} (he : Source.d6.value roll = .error e) :
    hear c roll = (c, "  " ++ e.message ++ "\n") := by
  have hvalue : c.source.value roll = .error e := by
    rw [hsource, he]
  have hrun : (Collector.add (.outcome roll)).run c = (.error e, c) := by
    rw [Collector.run_add, if_neg (Bool.eq_false_iff.mp hc)]
    simp only [Entropy.Observation.toEvent, Entropy.Event.value, hvalue, ne_eq, not_true_eq_false,
      if_false]
  rw [hear, hrun]

section Conversation

variable {fresh c : Collector} {vs : List ℕ} (h : Fed fresh c vs) (hsource : fresh.source = .d6)

include h hsource

theorem hear_roll (hc : c.finalized = false) {n : ℤ} (hn : Source.d6.Gives n) :
    Fed fresh (hear c (.integer n)).1 (vs ++ Source.d6.values [n]) := by
  rw [← hsource] at hn
  obtain ⟨k, c', hrun, hfed⟩ := h.add hc (o := .outcome (.integer n)) rfl hn
  rw [hsource] at hfed
  have hhear : (hear c (.integer n)).1 = c' := by
    rw [hear, hrun]
  rw [hhear]
  exact hfed

/-- **A conversation** ends as soon as its rolls are enough. -/
theorem exists_converse (hc : c.finalized = false) {lines : List String}
    (hlines : ∀ line ∈ lines, ∃ roll, readRoll line = .ok roll)
    (hreached : fresh.target ≤ (Source.d6.stream fresh.correction
      (vs ++ Source.d6.values (typedRolls lines))).length) :
    ∃ next, (converse c lines).1 = .ok next ∧
      Fed fresh next (vs ++ Source.d6.values (typedRolls lines)) := by
  induction lines generalizing c vs with
  | nil =>
    rw [typedRolls, List.filterMap_nil, Source.values, List.map_nil, List.append_nil, ← hsource]
      at hreached
    obtain ⟨-, -, -, -, hfinalized, -⟩ := h.complete hreached
    exact absurd (hc.symm.trans hfinalized) Bool.false_ne_true
  | cons line lines ih =>
    obtain ⟨roll, hread⟩ := hlines line List.mem_cons_self
    have hlines' : ∀ line ∈ lines, ∃ roll, readRoll line = .ok roll := fun l hl =>
      hlines l (List.mem_cons_of_mem line hl)
    rw [converse, hread]
    rw [typedRolls, List.filterMap_cons] at hreached ⊢
    cases hroll : rollOf? line with
    | some n =>
      obtain ⟨hread', hgives⟩ := rollOf?_eq_some hroll
      obtain rfl := Except.ok.inj (hread.symm.trans hread')
      have hfed := hear_roll h hsource hc hgives
      have hvalues : vs ++ Source.d6.values (n :: typedRolls lines) =
          vs ++ Source.d6.values [n] ++ Source.d6.values (typedRolls lines) := by
        rw [List.append_assoc]
        rfl
      simp only [hroll] at hreached ⊢
      rw [← typedRolls, hvalues] at hreached ⊢
      rcases Bool.eq_false_or_eq_true (hear c (.integer n)).1.finalized with hend | hend
      · -- what is typed after the last roll that was needed is not read
        exact ⟨_, by rw [if_pos hend], hfed.append hend _⟩
      · obtain ⟨next, hnext, hfed'⟩ := ih hfed hend hlines' hreached
        exact ⟨next, by rw [if_neg (Bool.eq_false_iff.mp hend), hnext], hfed'⟩
    | none =>
      simp only [hroll] at hreached ⊢
      rw [← typedRolls] at hreached ⊢
      obtain ⟨next, hnext, hfed⟩ := ih h hc hlines' hreached
      cases roll with
      | none => exact ⟨next, hnext, hfed⟩
      | some roll =>
        obtain ⟨e, he⟩ := value_of_rollOf?_eq_none hread hroll
        have hsame := congrArg Prod.fst (hear_of_refused (h.source_eq.trans hsource) hc he)
        refine ⟨next, ?_, hfed⟩
        dsimp only
        rw [hsame, if_neg (Bool.eq_false_iff.mp hc), hnext]

/-- **A demonstration** takes the fixed rolls in. -/
theorem exists_demonstrate : ∃ next, demonstrate c = .ok next ∧
    Fed fresh next (vs ++ Source.d6.values (fixedRolls c.target)) := by
  have hobservations : ((demoRolls c.target).map .outcome).map
      (fun o : Entropy.Observation => o.toEvent fresh.source) =
      (fixedRolls c.target).map fun n => ⟨fresh.source, .integer n⟩ := by
    rw [demoRolls_eq, List.map_map, List.map_map]
    rfl
  obtain ⟨used, next, hrun, hfed⟩ := h.extend hobservations fun n hn => by
    rw [hsource]
    exact gives_of_mem_fixedRolls hn
  rw [hsource] at hfed
  exact ⟨next, by rw [demonstrate, hrun], hfed⟩

end Conversation

end Airgap.Session
