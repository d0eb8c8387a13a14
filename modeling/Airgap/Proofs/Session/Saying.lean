import Airgap.Proofs.Outcome
import Airgap.Session.Wallet
import Mathlib.Data.Int.Notation

/-!
# Steps that say something

* `Saying.onto`: what a step ends in and all that is said by then, with a lemma for each way to make
  steps.
* `Saying.Appends`: a step adds to what was said before it and changes nothing of that.
* `onto_showWallet`: the words of a mnemonic are shown first, and stay shown.
-/

namespace Airgap.Session

variable {α β : Type}

namespace Saying

/-- What a step ends in, and all that is said by then. -/
def onto (x : Saying α) (said : String) : Except Error α × String := (ExceptT.run x).run said

@[simp] theorem onto_pure (a : α) (said : String) : onto (pure a) said = (.ok a, said) := rfl

@[simp] theorem onto_say (text said : String) : onto (say text) said = (.ok ⟨⟩, said ++ text) := rfl

@[simp] theorem onto_quietly (x : Except Error α) (said : String) :
    onto (quietly x) said = (x, said) := by cases x <;> rfl

theorem onto_bind (x : Saying α) (f : α → Saying β) (said : String) :
    onto (x >>= f) said =
      match onto x said with
      | (.ok a, said') => onto (f a) said'
      | (.error e, said') => (.error e, said') := by
  show StateT.run (ExceptT.run (x >>= f)) said = _
  rw [onto]
  simp only [ExceptT.run_bind, StateT.run_bind]
  cases h : StateT.run (ExceptT.run x) said with
  | mk r said' => cases r <;> rfl

/-- A step adds to what was said before it. -/
def Appends (x : Saying α) : Prop := ∀ said, ∃ result more, onto x said = (result, said ++ more)

theorem appends_pure (a : α) : Appends (pure a : Saying α) := fun said =>
  ⟨.ok a, "", by rw [onto_pure, String.append_empty]⟩

theorem appends_say (text : String) : Appends (say text) := fun _ => ⟨.ok ⟨⟩, text, rfl⟩

theorem appends_quietly (x : Except Error α) : Appends (quietly x) := fun said =>
  ⟨x, "", by rw [onto_quietly, String.append_empty]⟩

theorem Appends.bind {x : Saying α} (hx : Appends x) {f : α → Saying β} (hf : ∀ a, Appends (f a)) :
    Appends (x >>= f) := by
  intro said
  obtain ⟨result, more, hrun⟩ := hx said
  rw [onto_bind, hrun]
  cases result with
  | error e => exact ⟨.error e, more, rfl⟩
  | ok a =>
    obtain ⟨result, rest, hrest⟩ := hf a (said ++ more)
    exact ⟨result, more ++ rest, by rw [← String.append_assoc]; exact hrest⟩

end Saying

open Saying

/-- What is shown of a mnemonic. -/
def shownWords (m : Mnemonic) : String := "\nMnemonic:\n" ++ numberedWords m.words

/-- **The words are shown first**, and stay shown whatever happens after. -/
theorem onto_showWallet (codec : Mnemonic.Codec) (network : Network) (o : Options) (rounds : ℤ)
    (m : Mnemonic) (said : String) : ∃ result rest,
      onto (showWallet codec network o rounds m) said = (result, said ++ shownWords m ++ rest) := by
  rw [showWallet, onto_bind, onto_say]
  refine Appends.bind (appends_quietly _) (fun _ => ?_) _
  refine Appends.bind (appends_quietly _) fun _ => ?_
  refine Appends.bind (appends_quietly _) fun _ => ?_
  refine Appends.bind (appends_quietly _) fun _ => ?_
  refine Appends.bind (appends_quietly _) fun _ => ?_
  refine Appends.bind (appends_say _) fun _ => ?_
  refine Appends.bind (appends_quietly _) fun _ => ?_
  refine Appends.bind (appends_quietly _) fun _ => ?_
  exact Appends.bind (appends_say _) fun _ => appends_pure _

end Airgap.Session
