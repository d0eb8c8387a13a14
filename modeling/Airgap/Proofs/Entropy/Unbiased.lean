import Airgap.Proofs.Entropy.Stream
import Mathlib.Algebra.BigOperators.Fin
import Mathlib.Algebra.BigOperators.Ring.Finset
import Mathlib.Tactic.Ring

/-!
# The corrected bits of a biased coin

A coin shows zero with weight `p` and one with weight `q`; flips are independent, so a sequence of them
has the product of their weights.

* `yieldWeight`: the total weight of the flips that are corrected to given bits.
* `yieldWeight_add_two`: what two more flips add to it.
* `yieldWeight_unbiased`: it depends on the number of the bits alone.
-/

namespace Airgap.Entropy

variable {R : Type*} [CommSemiring R] (p q : R)

/-- The weight of a sequence of flips. -/
def flipWeight (flips : List Bool) : R := p ^ flips.count false * q ^ flips.count true

/-- Flips as they are typed, zero or one. -/
def typedFlips (flips : List Bool) : List ℤ := flips.map fun b => if b then 1 else 0

/-- The total weight of the sequences of `m` flips that are corrected to `bits`. -/
def yieldWeight (m : ℕ) (bits : List Bool) : R :=
  ∑ flips : Fin m → Bool with correctedNumbers (typedFlips (List.ofFn flips)) = .ok bits,
    flipWeight p q (List.ofFn flips)

/-! ## Correction -/

theorem correctedNumbers_typedFlips (flips : List Bool) :
    correctedNumbers (typedFlips flips) = .ok (corrected flips) := by
  have hread (b : Bool) : readBit (if b then 1 else 0) = .ok b := by cases b <;> rfl
  have hpairs : (pairs (typedFlips flips)).mapM (fun p => do return (← readBit p.1, ← readBit p.2)) =
      .ok (pairs flips) := by
    have hmap : pairs flips = (pairs (typedFlips flips)).map fun p => (decide (p.1 = 1), decide (p.2 = 1)) := by
      rw [typedFlips, pairs_map, List.map_map]
      conv_lhs => rw [← List.map_id (pairs flips)]
      refine List.map_congr_left fun p _ => ?_
      obtain ⟨a, b⟩ := p
      cases a <;> cases b <;> rfl
    rw [hmap]
    refine mapM_eq_ok fun p hp => ?_
    rw [typedFlips, pairs_map, List.mem_map] at hp
    obtain ⟨⟨a, b⟩, -, rfl⟩ := hp
    rw [hread, hread]
    cases a <;> cases b <;> rfl
  rw [correctedNumbers, hpairs]
  rfl

theorem corrected_cons_cons (a b : Bool) (flips : List Bool) :
    corrected (a :: b :: flips) =
      if a = b then corrected flips else a :: corrected flips := by
  rw [corrected, pairs, List.filterMap_cons]
  by_cases h : a = b
  · simp [keptBit, h, corrected]
  · simp [keptBit, h, corrected]

/-! ## Sums over flips -/

theorem flipWeight_append (flips more : List Bool) :
    flipWeight p q (flips ++ more) = flipWeight p q flips * flipWeight p q more := by
  simp only [flipWeight, List.count_append, pow_add]
  ring

/-- The first flip is zero or one. -/
theorem sum_flips_succ {m : ℕ} (f : List Bool → R) :
    ∑ flips : Fin (m + 1) → Bool, f (List.ofFn flips) =
      ∑ flips : Fin m → Bool, f (true :: List.ofFn flips) +
        ∑ flips : Fin m → Bool, f (false :: List.ofFn flips) := by
  rw [← (Fin.consEquiv fun _ : Fin (m + 1) => Bool).sum_comp, Fintype.sum_prod_type, Fintype.sum_bool]
  simp [Fin.consEquiv]

theorem yieldWeight_eq (m : ℕ) (bits : List Bool) :
    yieldWeight p q m bits = ∑ flips : Fin m → Bool,
      if corrected (List.ofFn flips) = bits then flipWeight p q (List.ofFn flips) else 0 := by
  simp only [yieldWeight, correctedNumbers_typedFlips, Except.ok.injEq, Finset.sum_filter]

/-- What a first pair of flips leaves to the others: all bits if it yields nothing, else all but the
first, which has to be its own. -/
theorem sum_pair (m : ℕ) (bits : List Bool) (a b : Bool) :
    ∑ flips : Fin m → Bool, (if corrected (a :: b :: List.ofFn flips) = bits then
      flipWeight p q (a :: b :: List.ofFn flips) else 0) =
        flipWeight p q [a, b] * if a = b then yieldWeight p q m bits
          else if bits.head? = some a then yieldWeight p q m bits.tail else 0 := by
  have hpair (flips : Fin m → Bool) :
      (if corrected (a :: b :: List.ofFn flips) = bits then
        flipWeight p q (a :: b :: List.ofFn flips) else 0) =
      if (if a = b then corrected (List.ofFn flips) else a :: corrected (List.ofFn flips)) = bits then
        flipWeight p q [a, b] * flipWeight p q (List.ofFn flips) else 0 := by
    rw [corrected_cons_cons]
    exact if_congr Iff.rfl (flipWeight_append p q [a, b] _) rfl
  rw [Finset.sum_congr rfl fun flips _ => hpair flips, yieldWeight_eq, yieldWeight_eq]
  by_cases hab : a = b
  · simp only [if_pos hab, Finset.mul_sum, mul_ite, mul_zero]
  · simp only [if_neg hab]
    cases bits with
    | nil => simp
    | cons c bits =>
      by_cases hc : c = a
      · simp only [hc, List.head?_cons, if_true, List.tail_cons, List.cons.injEq, true_and,
          Finset.mul_sum, mul_ite, mul_zero]
      · have hne (flips : List Bool) : ¬ a :: flips = c :: bits := fun h =>
          hc (List.cons.inj h).1.symm
        simp [hc, hne]

/-- **Two more flips.** Equal ones yield nothing, and just one of the two unequal pairs yields the first
of the bits. -/
theorem yieldWeight_add_two (m : ℕ) (bits : List Bool) :
    yieldWeight p q (m + 2) bits = (p * p + q * q) * yieldWeight p q m bits +
      if bits = [] then 0 else p * q * yieldWeight p q m bits.tail := by
  rw [yieldWeight_eq, sum_flips_succ fun flips =>
      if corrected flips = bits then flipWeight p q flips else 0,
    sum_flips_succ fun flips =>
      if corrected (true :: flips) = bits then flipWeight p q (true :: flips) else 0,
    sum_flips_succ fun flips =>
      if corrected (false :: flips) = bits then flipWeight p q (false :: flips) else 0]
  simp only [sum_pair]
  cases bits with
  | nil => simp [flipWeight]; ring
  | cons c bits => cases c <;> simp [flipWeight] <;> ring

/-! ## Uniform output -/

/-- Fewer than two flips yield nothing. -/
theorem yieldWeight_of_lt_two {m : ℕ} (hm : m < 2) (bits : List Bool) :
    yieldWeight p q m bits =
      if bits = [] then ∑ flips : Fin m → Bool, flipWeight p q (List.ofFn flips) else 0 := by
  have hnone (flips : Fin m → Bool) : corrected (List.ofFn flips) = [] := by
    obtain rfl | rfl : m = 0 ∨ m = 1 := by omega
    · rfl
    · rfl
  simp only [yieldWeight_eq, hnone]
  by_cases hbits : bits = []
  · simp [hbits]
  · simp [hbits, Ne.symm hbits]

/-- **The corrected bits of a biased coin are unbiased.** Of bits of the same length each sequence has the
same total weight, whatever the weights of zero and one. -/
theorem yieldWeight_unbiased (m : ℕ) {bits bits' : List Bool} (h : bits.length = bits'.length) :
    yieldWeight p q m bits = yieldWeight p q m bits' := by
  -- two flips at a time, as the corrector takes them
  induction m using Nat.twoStepInduction generalizing bits bits' with
  | zero =>
    rw [yieldWeight_of_lt_two p q (by decide), yieldWeight_of_lt_two p q (by decide)]
    simp only [← List.length_eq_zero_iff, h]
  | one =>
    rw [yieldWeight_of_lt_two p q (by decide), yieldWeight_of_lt_two p q (by decide)]
    simp only [← List.length_eq_zero_iff, h]
  | more m ih _ =>
    have htail : bits.tail.length = bits'.tail.length := by
      rw [List.length_tail, List.length_tail, h]
    rw [yieldWeight_add_two, yieldWeight_add_two, ih h, ih htail]
    simp only [← List.length_eq_zero_iff, h]

/-- Five flips of a coin that shows one twice as often as zero. -/
theorem yieldWeight_unbiased_five : [true, false].length = [false, false].length ∧
    ∑ flips : Fin 5 → Bool with correctedNumbers (typedFlips (List.ofFn flips)) = .ok [true, false],
      flipWeight 1 2 (List.ofFn flips) =
    ∑ flips : Fin 5 → Bool with correctedNumbers (typedFlips (List.ofFn flips)) = .ok [false, false],
      flipWeight 1 2 (List.ofFn flips) :=
  ⟨rfl, yieldWeight_unbiased (1 : ℕ) 2 5 rfl⟩

end Airgap.Entropy
