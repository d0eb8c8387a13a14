import Airgap.Proofs.Entropy.BitSequence

/-!
# Which operations a pool survives

A cut takes any integer, also one below zero.

* `Pool.Sound`: the buffer of a pool fits its bits, and each of them can be read.
* `Pool.Safe`: an operation leaves a sound pool, and the same one if it fails.
* `Operation.CutsBack`: a cut below zero that reaches into the bytes of the pool.
* `Holds.safe_iff`: these cuts, and no other operations, are not safe; `Holds.truncate_back` says what
  they leave behind.
* `safe_throughout_iff`: a run is safe exactly if there is no such cut in it.
-/

namespace Airgap.Entropy.Pool

/-- The buffer has just the bytes that the bits take, and each bit can be read. -/
structure Sound (p : Pool) : Prop where
  length_nonneg : 0 ≤ p.length
  size_eq : (p.buffer.size : ℤ) = (p.length + 7) / 8
  readable : ∀ i, 0 ≤ i → i < p.length → ∃ b, p.bit i = .ok b

/-- An operation leaves a sound pool, and the very pool that it was given if it fails. -/
structure Safe (p : Pool) (operation : Operation) : Prop where
  sound : (p.perform operation).1.Sound
  unchanged : ∀ e, (p.perform operation).2 = .error e → (p.perform operation).1 = p

/-- A cut below zero that reaches into the bytes of the pool, counted from their end. -/
def Operation.CutsBack (p : Pool) : Operation → Prop
  | .truncate count =>
    count < 0 ∧ p.buffer.size ≠ 0 ∧ -(min p.buffer.size wordLimit : ℕ) ≤ (count + 7) / 8
  | _ => False

/-- A condition on the pool and the operation holds at each step of a run. -/
def Throughout (P : Pool → Operation → Prop) : Pool → List Operation → Prop
  | _, [] => True
  | p, operation :: operations => P p operation ∧ Throughout P (p.perform operation).1 operations

instance (p : Pool) (operation : Operation) : Decidable (operation.CutsBack p) :=
  match operation with
  | .truncate _ => inferInstanceAs (Decidable (_ ∧ _ ∧ _))
  | .appendBit _ | .appendBits _ _ | .clear => inferInstanceAs (Decidable False)

instance decidableThroughout {P : Pool → Operation → Prop} [∀ p operation, Decidable (P p operation)] :
    (p : Pool) → (operations : List Operation) → Decidable (Throughout P p operations)
  | _, [] => inferInstanceAs (Decidable True)
  | p, operation :: operations =>
    have := decidableThroughout (P := P) (p.perform operation).1 operations
    inferInstanceAs (Decidable (_ ∧ _))

namespace Holds

variable {p : Pool} {bits : List Bool} {count : ℤ}

theorem sound (h : p.Holds bits) : p.Sound := by
  have hlength := h.length_eq
  have hsize := h.size_eq
  refine ⟨by omega, by omega, fun i hi hlt => ?_⟩
  obtain ⟨n, rfl⟩ := Int.eq_ofNat_of_zero_le hi
  exact ⟨_, h.bit (by omega)⟩

/-! ## Cuts below zero -/

/-- A cut below zero that does not reach into the pool is refused, and nothing is cut. -/
theorem truncate_outside (h : p.Holds bits) (hneg : count < 0)
    (hout : ¬ (Operation.truncate count).CutsBack p) : ∃ e, p.truncate count = (p, .error e) := by
  have hlength := h.length_eq
  have hshort : ¬ p.length ≤ count := by omega
  simp only [Operation.CutsBack, hneg, true_and, not_and] at hout
  simp only [Pool.truncate, hshort, if_false]
  by_cases hword : (count + 7) / 8 < -(wordLimit : ℤ)
  · exact ⟨_, if_pos hword⟩
  by_cases hindex : (count + 7) / 8 < -(p.buffer.size : ℤ)
  · exact ⟨_, by rw [if_neg hword, if_pos hindex]⟩
  -- only the empty pool is left, of which no byte is cut before the mask finds none
  have hempty : p.buffer.size = 0 := by
    by_contra hne
    exact hout hne (by omega)
  have hzero : (count + 7) / 8 = 0 := by omega
  have hbits : ¬ count % 8 = 0 := by omega
  have hbuffer : p.buffer = #[] := Array.eq_empty_of_size_eq_zero hempty
  have hpool : (⟨#[], p.length⟩ : Pool) = p := by rw [← hbuffer]
  refine ⟨.bufferIndex, ?_⟩
  rw [if_neg hword, if_neg hindex, hzero, if_neg hbits, hbuffer]
  exact congrArg (·, _) hpool

/-- A cut below zero that reaches into the pool loses all its bytes and fails, or leaves less than no
bits. -/
theorem truncate_back (h : p.Holds bits) (hback : (Operation.truncate count).CutsBack p) :
    (∃ e, p.truncate count = (⟨#[], p.length⟩, .error e)) ∨
      ∃ buffer, p.truncate count = (⟨buffer, count⟩, .ok ()) := by
  obtain ⟨hneg, hne, hreach⟩ := hback
  have hlength := h.length_eq
  have hshort : ¬ p.length ≤ count := by omega
  have hword : ¬ (count + 7) / 8 < -(wordLimit : ℤ) := by omega
  have hindex : ¬ (count + 7) / 8 < -(p.buffer.size : ℤ) := by omega
  simp only [Pool.truncate, hshort, hword, hindex, if_false]
  generalize cut ((count + 7) / 8)
    (if (count + 7) / 8 < 0 then p.buffer.map fun _ => 0 else p.buffer) = kept
  by_cases hbits : count % 8 = 0
  · exact .inr ⟨_, if_pos hbits⟩
  · rw [if_neg hbits]
    split
    · rename_i hkept
      rw [Array.isEmpty_iff] at hkept
      exact .inl ⟨_, by rw [hkept]⟩
    · exact .inr ⟨_, rfl⟩

/-! ## Safe operations -/

/-- An operation that does not cut back leaves the bits of some list, and the same pool if it fails. -/
theorem perform_of_not_cutsBack (h : p.Holds bits) {operation : Operation}
    (hout : ¬ operation.CutsBack p) : (∃ bits', (p.perform operation).1.Holds bits') ∧
      ∀ e, (p.perform operation).2 = .error e → (p.perform operation).1 = p := by
  by_cases hforward : operation.Forward
  · obtain ⟨q, hq, hholds⟩ := h.perform hforward
    rw [hq]
    exact ⟨⟨_, hholds⟩, fun e he => nomatch he⟩
  · obtain ⟨count, rfl, hneg⟩ : ∃ count, operation = .truncate count ∧ count < 0 := by
      simpa [Operation.Forward] using hforward
    obtain ⟨e, he⟩ := h.truncate_outside hneg hout
    rw [Pool.perform, he]
    exact ⟨⟨bits, h⟩, fun _ _ => rfl⟩

/-- **The operations that are not safe** are the cuts below zero that reach into the pool. -/
theorem safe_iff (h : p.Holds bits) (operation : Operation) :
    p.Safe operation ↔ ¬ operation.CutsBack p := by
  constructor
  · intro hsafe hback
    cases operation with
    | truncate count =>
      rcases h.truncate_back hback with ⟨e, he⟩ | ⟨buffer, hbuffer⟩
      · have hsame := hsafe.unchanged e (by rw [Pool.perform, he])
        rw [Pool.perform, he] at hsame
        exact hback.2.1 (by rw [← hsame]; rfl)
      · have hlength := hsafe.sound.length_nonneg
        rw [Pool.perform, hbuffer] at hlength
        exact absurd hback.1 (not_lt.mpr hlength)
    | appendBit bit => exact hback
    | appendBits value width => exact hback
    | clear => exact hback
  · intro hout
    obtain ⟨⟨_, hholds⟩, hunchanged⟩ := h.perform_of_not_cutsBack hout
    exact ⟨hholds.sound, hunchanged⟩

/-! ## Runs -/

theorem throughout_iff (h : p.Holds bits) (operations : List Operation) :
    Throughout Safe p operations ↔
      Throughout (fun p operation => ¬ operation.CutsBack p) p operations := by
  induction operations generalizing p bits with
  | nil => exact Iff.rfl
  | cons operation operations ih =>
    rw [Throughout, Throughout, h.safe_iff]
    refine and_congr_right fun hout => ?_
    obtain ⟨⟨_, hholds⟩, -⟩ := h.perform_of_not_cutsBack hout
    exact ih hholds

theorem performAll_of_throughout (h : p.Holds bits) {operations : List Operation}
    (hout : Throughout (fun p operation => ¬ operation.CutsBack p) p operations) :
    ∃ bits', (p.performAll operations).Holds bits' := by
  induction operations generalizing p bits with
  | nil => exact ⟨bits, h⟩
  | cons operation operations ih =>
    obtain ⟨⟨_, hholds⟩, -⟩ := h.perform_of_not_cutsBack hout.1
    exact ih hholds hout.2

end Holds

theorem Operation.Forward.not_cutsBack {operation : Operation} (h : operation.Forward) (p : Pool) :
    ¬ operation.CutsBack p := by
  cases operation with
  | truncate count => exact fun hback => absurd hback.1 (not_lt.mpr (h count rfl))
  | appendBit bit => exact id
  | appendBits value width => exact id
  | clear => exact id

theorem throughout_of_forall {P : Pool → Operation → Prop} {operations : List Operation}
    (h : ∀ operation ∈ operations, ∀ p, P p operation) (p : Pool) : Throughout P p operations := by
  induction operations generalizing p with
  | nil => trivial
  | cons operation operations ih =>
    exact ⟨h operation List.mem_cons_self p,
      ih (fun later hlater => h later (List.mem_cons_of_mem operation hlater)) _⟩

/-- **Which runs a pool survives.** Whatever integers the operations are given, each of them leaves a pool
whose buffer fits its bits and whose bits can all be read, and changes nothing if it fails, exactly if none
of them is a cut below zero that reaches into the bytes that the pool then has. So every run is safe whose
cuts are at zero or above. -/
theorem safe_throughout_iff (operations : List Operation) :
    (Throughout Safe empty operations ↔
      Throughout (fun p operation => ¬ operation.CutsBack p) empty operations) ∧
    (Throughout Safe empty operations → (empty.performAll operations).Sound) ∧
    ((∀ operation ∈ operations, operation.Forward) → Throughout Safe empty operations) := by
  have hiff := holds_empty.throughout_iff operations
  refine ⟨hiff, fun hsafe => ?_, fun hforward => ?_⟩
  · obtain ⟨_, hholds⟩ := holds_empty.performAll_of_throughout (hiff.mp hsafe)
    exact hholds.sound
  · exact hiff.mpr (throughout_of_forall (fun operation hmem => (hforward operation hmem).not_cutsBack) _)

/-- Cuts below zero that miss the pool, one of them an empty pool, change nothing. -/
theorem safe_throughout_iff_outside :
    let operations : List Operation :=
      [.truncate (-1), .appendBits (-3) 9, .truncate (-24), .truncate 3, .clear, .truncate (-8)]
    Throughout (fun p operation => ¬ operation.CutsBack p) empty operations ∧
      Throughout Safe empty operations ∧ (empty.performAll operations).Sound := by
  intro operations
  have hout : Throughout (fun p operation => ¬ operation.CutsBack p) empty operations := by decide
  obtain ⟨hiff, hsound, -⟩ := safe_throughout_iff operations
  exact ⟨hout, hiff.mpr hout, hsound (hiff.mpr hout)⟩

/-- One bit, and a cut below zero: the cut fails but has lost the byte, so that the bit cannot be read, or
it succeeds with less than no bits left. -/
theorem exists_not_safe :
    let p := (empty.perform (.appendBit true)).1
    let lost := p.perform (.truncate (-1))
    let negative := p.perform (.truncate (-8))
    ¬ Throughout Safe empty [.appendBit true, .truncate (-1)] ∧
      lost = (⟨#[], 1⟩, .error .bufferIndex) ∧ lost.1 ≠ p ∧ ¬ lost.1.Sound ∧
      lost.1.bit 0 = .error .bufferIndex ∧ negative.2 = .ok () ∧ negative.1.length = -8 := by
  intro p lost negative
  have hlost : lost = (⟨#[], 1⟩, .error .bufferIndex) := rfl
  refine ⟨?_, hlost, by decide, fun hsound => ?_, rfl, rfl, rfl⟩
  · rw [holds_empty.throughout_iff]
    decide
  · exact absurd hsound.size_eq (by decide)

end Airgap.Entropy.Pool
