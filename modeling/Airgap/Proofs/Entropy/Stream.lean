import Airgap.Entropy.Event
import Airgap.Entropy.VonNeumann
import Airgap.Proofs.Entropy.Bits
import Airgap.Proofs.Outcome
import Mathlib.Data.List.Basic

/-!
# The bits that outcomes stand for

* `Source.stream`: the bits of a sequence of values, as they are or corrected for bias, and
  `Source.discards`: the values or pairs that bring no bit.
* `unpaired`: the value that still waits for its partner.
* `stream_concat`, `discards_concat`: what one more value brings.
* `correctedNumbers_eq`: the corrected stream of a coin is the corrected sequence of its outcomes.
-/

namespace Airgap.Entropy

/-! ## Pairs -/

/-- The last item of a sequence if it has no partner. -/
def unpaired {α : Type} : List α → Option α
  | _ :: _ :: rest => unpaired rest
  | [a] => some a
  | [] => none

section Pairs

variable {α β : Type}

theorem pairs_concat : ∀ (xs : List α) (x : α),
    pairs (xs ++ [x]) = pairs xs ++ ((unpaired xs).map fun a => (a, x)).toList
  | [], _ | [_], _ => rfl
  | a :: b :: rest, x => congrArg ((a, b) :: ·) (pairs_concat rest x)

theorem unpaired_concat : ∀ (xs : List α) (x : α),
    unpaired (xs ++ [x]) = (unpaired xs).elim (some x) fun _ => none
  | [], _ | [_], _ => rfl
  | _ :: _ :: rest, x => unpaired_concat rest x

theorem pairs_map (f : α → β) : ∀ xs : List α,
    pairs (xs.map f) = (pairs xs).map fun p => (f p.1, f p.2)
  | [] | [_] => rfl
  | a :: b :: rest => congrArg ((f a, f b) :: ·) (pairs_map f rest)

theorem mem_of_mem_pairs {p : α × α} : ∀ {xs : List α}, p ∈ pairs xs → p.1 ∈ xs ∧ p.2 ∈ xs
  | a :: b :: rest, h => by
    rcases List.mem_cons.mp h with rfl | h
    · simp
    · obtain ⟨h1, h2⟩ := mem_of_mem_pairs h
      exact ⟨List.mem_cons_of_mem _ (List.mem_cons_of_mem _ h1),
        List.mem_cons_of_mem _ (List.mem_cons_of_mem _ h2)⟩

end Pairs

/-! ## Values -/

/-- Bits are kept where two sequences of them differ. -/
theorem filterMap_keptBit (is : List ℕ) (f g : ℕ → Bool) :
    ((is.map f).zip (is.map g)).filterMap keptBit = (is.filter fun i => f i != g i).map f := by
  induction is with
  | nil => rfl
  | cons i is ih =>
    rw [List.map_cons, List.map_cons, List.zip_cons_cons, List.filterMap_cons, ih, List.filter_cons]
    by_cases h : f i = g i
    · simp [keptBit, h]
    · simp [keptBit, h]

namespace Source

variable (s : Source)

/-- The bits of a value as they are, most significant first; a value that is not kept has none. -/
def rawBits (v : ℕ) : List Bool := if v < 2 ^ s.bits then bitsDown s.bits v else []

/-- The bits of a pair of values: from the top, the first one's bit wherever the two differ. -/
def pairBits (p : ℕ × ℕ) : List Bool :=
  ((List.range s.bits).reverse.filter fun i => p.1.testBit i != p.2.testBit i).map p.1.testBit

/-- The bits of a sequence of values, which are taken in pairs if they are corrected. -/
def stream (correction : Bool) (vs : List ℕ) : List Bool :=
  if correction then (pairs vs).flatMap s.pairBits else vs.flatMap s.rawBits

/-- How many of the values, or of their pairs, bring no bit. -/
def discards (correction : Bool) (vs : List ℕ) : ℕ :=
  if correction then (pairs vs).countP fun p => s.pairBits p = []
  else vs.countP fun v => 2 ^ s.bits ≤ v

variable {s} {correction : Bool} {vs : List ℕ}

theorem bits_pos (s : Source) : 0 < s.bits := by cases s <;> decide

theorem retained_eq (s : Source) : s.retained = 2 ^ s.bits := Nat.one_shiftLeft _

theorem correctedPair_eq (s : Source) (a b : ℕ) : correctedPair s.bits a b = s.pairBits (a, b) := by
  rw [correctedPair, bitsOf_natCast, bitsOf_natCast]
  exact filterMap_keptBit _ _ _

theorem bitsOf_of_lt_retained {v : ℕ} (hv : v < s.retained) : bitsOf s.bits v = s.rawBits v := by
  rw [bitsOf_natCast, rawBits, if_pos (s.retained_eq ▸ hv)]

theorem rawBits_eq_nil {v : ℕ} : s.rawBits v = [] ↔ 2 ^ s.bits ≤ v := by
  rw [rawBits]
  split
  · rename_i hv
    have hne : bitsDown s.bits v ≠ [] := by
      rw [← List.length_pos_iff, length_bitsDown]
      exact s.bits_pos
    exact iff_of_false hne (Nat.not_le.mpr hv)
  · rename_i hv
    exact iff_of_true rfl (Nat.not_lt.mp hv)

/-- What a value brings after others: nothing while it waits for its partner. -/
def brought (s : Source) (correction : Bool) (vs : List ℕ) (v : ℕ) : List (List Bool) :=
  if correction then ((unpaired vs).map fun a => s.pairBits (a, v)).toList else [s.rawBits v]

/-- A value that ends a pair leaves none waiting. -/
theorem unpaired_of_brought {v : ℕ} {bits : List Bool} (h : s.brought true vs v = [bits]) :
    unpaired (vs ++ [v]) = none := by
  rw [unpaired_concat]
  cases hw : unpaired vs with
  | none => simp [brought, hw] at h
  | some a => rfl

theorem stream_nil (s : Source) (correction : Bool) : s.stream correction [] = [] := by
  cases correction <;> rfl

theorem discards_nil (s : Source) (correction : Bool) : s.discards correction [] = 0 := by
  cases correction <;> rfl

theorem stream_concat (v : ℕ) :
    s.stream correction (vs ++ [v]) =
      s.stream correction vs ++ (s.brought correction vs v).flatten := by
  cases correction with
  | false => simp [stream, brought]
  | true => cases h : unpaired vs <;> simp [stream, brought, pairs_concat, h]

theorem discards_concat (v : ℕ) :
    s.discards correction (vs ++ [v]) =
      s.discards correction vs + (s.brought correction vs v).countP (· = []) := by
  cases correction with
  | false => simp [discards, brought, rawBits_eq_nil, List.countP_append, List.countP_singleton]
  | true =>
    cases h : unpaired vs <;>
      simp [discards, brought, pairs_concat, h, List.countP_append, List.countP_singleton]

/-- More values only append to the stream. -/
theorem stream_isPrefix (vs ws : List ℕ) :
    s.stream correction vs <+: s.stream correction (vs ++ ws) := by
  induction ws using List.reverseRecOn with
  | nil => simp
  | append_singleton ws w ih =>
    rw [← List.append_assoc, stream_concat]
    exact ih.trans (List.prefix_append _ _)

/-! ## Outcomes -/

/-- The value of an outcome: its distance from the first one. -/
def counted (s : Source) (n : ℤ) : ℕ := (n - s.first).toNat

/-- The values of outcomes. -/
def values (s : Source) (outcomes : List ℤ) : List ℕ := outcomes.map s.counted

/-- The outcome can come from the source. -/
def Gives (s : Source) (n : ℤ) : Prop := s.first ≤ n ∧ n ≤ s.last

instance (s : Source) (n : ℤ) : Decidable (s.Gives n) :=
  inferInstanceAs (Decidable (s.first ≤ n ∧ n ≤ s.last))

theorem Gives.value_eq {n : ℤ} (h : s.Gives n) : s.value (.integer n) = .ok (s.counted n) :=
  if_pos h

theorem gives_coin_iff {n : ℤ} : coin.Gives n ↔ n = 0 ∨ n = 1 := by
  simp only [Gives, first, last, arity]
  omega

theorem readBit_eq {n : ℤ} (h : coin.Gives n) : readBit n = .ok (decide (n = 1)) := by
  rcases gives_coin_iff.mp h with rfl | rfl <;> rfl

/-- A pair of coins brings the bit that the corrected sequence keeps. -/
theorem pairBits_coin {m n : ℤ} (hm : coin.Gives m) (hn : coin.Gives n) :
    coin.pairBits (coin.counted m, coin.counted n) =
      (keptBit (decide (m = 1), decide (n = 1))).toList := by
  rcases gives_coin_iff.mp hm with rfl | rfl <;> rcases gives_coin_iff.mp hn with rfl | rfl <;> decide

/-- **The corrected stream of a coin** is the corrected sequence of its outcomes. -/
theorem correctedNumbers_eq {outcomes : List ℤ} (h : ∀ n ∈ outcomes, coin.Gives n) :
    correctedNumbers outcomes = .ok (coin.stream true (coin.values outcomes)) := by
  have hread : (pairs outcomes).mapM (fun p => do return (← readBit p.1, ← readBit p.2)) =
      .ok ((pairs outcomes).map fun p => (decide (p.1 = 1), decide (p.2 = 1))) := by
    refine mapM_eq_ok fun p hp => ?_
    obtain ⟨h1, h2⟩ := mem_of_mem_pairs hp
    rw [readBit_eq (h _ h1), readBit_eq (h _ h2)]
    rfl
  have hkept : (pairs outcomes).flatMap
        (fun p => (keptBit (decide (p.1 = 1), decide (p.2 = 1))).toList) =
      (pairs outcomes).flatMap
        fun p => coin.pairBits (coin.counted p.1, coin.counted p.2) := by
    refine List.flatMap_congr fun p hp => ?_
    obtain ⟨h1, h2⟩ := mem_of_mem_pairs hp
    exact (pairBits_coin (h _ h1) (h _ h2)).symm
  rw [correctedNumbers, hread, ok_bind, pure_eq_ok, List.filterMap_map,
    List.filterMap_eq_flatMap_toList, stream, if_pos rfl, values, pairs_map, List.flatMap_map]
  exact congrArg Except.ok hkept

end Source

end Airgap.Entropy
