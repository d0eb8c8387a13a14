import Airgap.Mnemonic.Basic
import Airgap.Proofs.Outcome
import Airgap.Proofs.WordList
import Mathlib.Data.List.Induction
import Mathlib.Tactic.Ring

/-!
# Words as digits

* `placesOf_numeral`: the digits of a numeral are the places that write it.
* `indices_eq_ok_iff`: places are found for exactly the words that stand there.
* `map_normalizeWord`: the words of a mnemonic have their spelling; so have those of a number in a
  spelled list, with `words_ofWords_wordsOf`.
-/

namespace Airgap.Mnemonic

theorem phrases_eq (count : ℕ) : phrases count = 2 ^ (11 * count) := by
  rw [Nat.pow_mul]
  rfl

theorem numeral_concat (is : List WordIndex) (i : WordIndex) :
    numeral (is ++ [i]) = wordCount * numeral is + i.val := by
  simp only [numeral, List.foldl_append, List.foldl_cons, List.foldl_nil]

theorem placesOf_numeral (is : List WordIndex) : placesOf is.length (numeral is) = is := by
  induction is using List.reverseRecOn with
  | nil => rfl
  | append_singleton is i ih =>
    have hdiv : (wordCount * numeral is + i.val) / wordCount = numeral is := by
      rw [Nat.mul_add_div (by decide), Nat.div_eq_of_lt i.isLt, Nat.add_zero]
    have hmod : Fin.ofNat wordCount (wordCount * numeral is + i.val) = i := by
      apply Fin.ext
      rw [Fin.val_ofNat, Nat.mul_add_mod, Nat.mod_eq_of_lt i.isLt]
    rw [List.length_append, List.length_singleton, placesOf, numeral_concat, hdiv, hmod, ih]

theorem numeral_lt (is : List WordIndex) : numeral is < phrases is.length := by
  have h := numeral_placesOf is.length (numeral is)
  rw [placesOf_numeral] at h
  rw [h]
  exact Nat.mod_lt _ (phrases_pos _)

end Airgap.Mnemonic

namespace Airgap.WordList

open Mnemonic (normalizeWord placesOf numeral)

variable {l : WordList}

theorem index_eq_ok_iff {w : String} {position : Option ℤ} {i : WordIndex} :
    l.index w position = .ok i ↔ l.word i = normalizeWord w := by
  rw [← lookup?_eq_some_iff, index]
  cases l.lookup? w with
  | none => simp
  | some j => simp

/-- Places are found for exactly the words that stand there. -/
theorem indices_eq_ok_iff {ws : List String} {is : List WordIndex} :
    l.indices ws = .ok is ↔ is.map l.word = ws.map normalizeWord := by
  have hpositions : List.Forall₂ (fun p i => l.word i = normalizeWord p.1) ws.zipIdx is ↔
      List.Forall₂ (fun w i => l.word i = normalizeWord w) ws is := by
    rw [← List.forall₂_map_left_iff (R := fun w i => l.word i = normalizeWord w), List.zipIdx_map_fst]
  rw [indices, mapM_eq_ok_iff]
  simp only [index_eq_ok_iff]
  rw [hpositions, ← List.forall₂_eq_eq_eq, List.forall₂_map_left_iff, List.forall₂_map_right_iff]
  exact ⟨List.Forall₂.flip, List.Forall₂.flip⟩

theorem length_wordsOf (l : WordList) (count n : ℕ) : (l.wordsOf count n).length = count := by
  rw [wordsOf, List.length_map, Mnemonic.length_placesOf]

theorem Spelled.map_wordsOf (hl : Spelled l) (count n : ℕ) :
    (l.wordsOf count n).map normalizeWord = l.wordsOf count n := by
  rw [wordsOf, List.map_map]
  exact List.map_congr_left fun i _ => hl i

theorem Spelled.indices_wordsOf (hl : Spelled l) (count n : ℕ) :
    l.indices (l.wordsOf count n) = .ok (placesOf count n) :=
  indices_eq_ok_iff.mpr (hl.map_wordsOf count n).symm

theorem Spelled.words_ofWords (hl : Spelled l) (count n : ℕ) (scheme : Mnemonic.Scheme) :
    (Mnemonic.ofWords (l.wordsOf count n) scheme).words = l.wordsOf count n := hl.map_wordsOf count n

theorem length_of_indices {ws : List String} {is : List WordIndex} (h : l.indices ws = .ok is) :
    is.length = ws.length := by
  have hmap := congrArg List.length (indices_eq_ok_iff.mp h)
  rwa [List.length_map, List.length_map] at hmap

theorem numeral_lt_of_indices {ws : List String} {is : List WordIndex}
    (h : l.indices ws = .ok is) : numeral is < Mnemonic.phrases ws.length := by
  rw [← length_of_indices h]
  exact Mnemonic.numeral_lt is

/-- Words that are found are those of the number that their places write. -/
theorem eq_wordsOf {ws : List String} {is : List WordIndex} (hws : ws.map normalizeWord = ws)
    (h : l.indices ws = .ok is) : ws = l.wordsOf ws.length (numeral is) := by
  have hmap := indices_eq_ok_iff.mp h
  rw [← length_of_indices h, wordsOf, Mnemonic.placesOf_numeral, hmap, hws]

end Airgap.WordList

namespace Airgap.Mnemonic

/-- The words of a mnemonic have their spelling. -/
theorem map_normalizeWord (m : Mnemonic) : m.words.map normalizeWord = m.words := by
  obtain ⟨ws, hws⟩ := m.spelled
  rw [hws, List.map_map]
  exact List.map_congr_left fun w _ => normalizeWord_normalizeWord w

theorem mnemonic_ofWords (ws : List String) (scheme : Scheme) :
    (Input.ready (ofWords ws scheme)).mnemonic scheme = .ok (ofWords ws scheme) := if_pos rfl

end Airgap.Mnemonic
