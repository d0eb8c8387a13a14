import Airgap.Proofs.Mnemonic.Spelling
import Airgap.WordList.Basic
import Mathlib.Data.List.Nodup

/-!
# Looking up words

* `findFinIdx?_eq_some_iff`, `find?_eq_some_iff`: a word is found where it stands.
* `Spelled`: a list whose words have their spelling, with `lookup?_eq_some_iff`.
* `letter_of_mem_word`, `spelled_english`: the English words are words of letters, and have their spelling.
-/

namespace Airgap

/-! ## Places -/

section Places

variable {α : Type} {n : ℕ} {v : Vector α n} (hv : v.toList.Nodup)

include hv

theorem getElem_injective_of_nodup : Function.Injective fun i : Fin n => v[i] := by
  intro i j h
  have hlt (k : Fin n) : k.val < v.toList.length := by
    rw [Vector.length_toList]
    exact k.isLt
  have hget : v.toList.get ⟨i, hlt i⟩ = v.toList.get ⟨j, hlt j⟩ := by
    rw [List.get_eq_getElem, List.get_eq_getElem, Vector.getElem_toList, Vector.getElem_toList]
    exact h
  exact Fin.ext (Fin.mk.inj (List.nodup_iff_injective_get.mp hv hget))

/-- What stands at one place is found there. -/
theorem findFinIdx?_eq_some_iff [BEq α] [LawfulBEq α] {a : α} {i : Fin n} :
    v.findFinIdx? (· == a) = some i ↔ v[i] = a := by
  have hfound {j : Fin n} (h : v.findFinIdx? (· == a) = some j) : v[j] = a := by
    have hget : v.find? (· == a) = some v[j] := by
      rw [Vector.find?_eq_map_findFinIdx?_getElem]
      exact congrArg (Option.map (v[·])) h
    exact beq_iff_eq.mp (Vector.find?_some (p := (· == a)) hget)
  refine ⟨hfound, fun h => ?_⟩
  cases hj : v.findFinIdx? (· == a) with
  | none =>
    have hnot := Vector.findFinIdx?_eq_none_iff.mp hj v[i] (Vector.getElem_mem i.isLt)
    exact absurd (beq_iff_eq.mpr h) hnot
  | some j => rw [getElem_injective_of_nodup hv ((hfound hj).trans h.symm)]

end Places

namespace WordList

open Mnemonic (normalizeWord)

variable {l : WordList}

theorem word_injective (l : WordList) : Function.Injective l.word :=
  getElem_injective_of_nodup l.nodup

/-- A word is found where it stands. -/
theorem find?_eq_some_iff {w : String} {i : WordIndex} : l.find? w = some i ↔ l.word i = w :=
  findFinIdx?_eq_some_iff l.nodup

/-- Whether the words of a list have their spelling. -/
def Spelled (l : WordList) : Prop := ∀ i, normalizeWord (l.word i) = l.word i

theorem lookup?_eq_some_iff {typed : String} {i : WordIndex} :
    l.lookup? typed = some i ↔ l.word i = normalizeWord typed := find?_eq_some_iff

/-! ## The English list -/

theorem letters_englishWords : (englishWords.all fun w => w.toByteArray.data.toList.all fun b =>
    97 ≤ b.toNat && b.toNat ≤ 122) = true := by decide +kernel

/-- A text whose bytes are letters has them as its characters. -/
theorem letter_of_mem_toList {w : String}
    (hw : ∀ b ∈ w.toByteArray.data.toList, 97 ≤ b.toNat ∧ b.toNat ≤ 122) {c : Char}
    (hc : c ∈ w.toList) : 97 ≤ c.toNat ∧ c.toNat ≤ 122 := by
  have hbytes : ∀ b ∈ String.utf8EncodeChar c, 97 ≤ b.toNat ∧ b.toNat ≤ 122 := by
    intro b hb
    apply hw
    rw [← String.utf8Encode_toList, List.utf8Encode, List.toList_data_toByteArray, List.mem_flatMap]
    exact ⟨c, hc, hb⟩
  unfold String.utf8EncodeChar at hbytes
  simp only at hbytes
  have hval : c.val.toNat = c.toNat := rfl
  -- the first byte of a longer encoding is no letter
  split_ifs at hbytes
  all_goals
    have h := hbytes _ List.mem_cons_self
    rw [UInt8.toNat_ofNat'] at h
    omega

theorem word_mem_englishWords (i : WordIndex) : english.word i ∈ englishWords := by
  have h : english.word i ∈ english.words.toList :=
    Vector.mem_toList_iff.mpr (Vector.getElem_mem i.isLt)
  exact h

/-- The English words are written in the letters from `a` to `z`. -/
theorem letter_of_mem_word {i : WordIndex} {c : Char} (hc : c ∈ (english.word i).toList) :
    97 ≤ c.toNat ∧ c.toNat ≤ 122 := by
  have hbytes := List.all_eq_true.mp
    (List.all_eq_true.mp letters_englishWords _ (word_mem_englishWords i))
  simp only [Bool.and_eq_true, decide_eq_true_eq] at hbytes
  exact letter_of_mem_toList hbytes hc

theorem empty_notMem_englishWords : "" ∉ englishWords := by
  set_option maxRecDepth 20000 in decide

theorem word_ne_empty (i : WordIndex) : english.word i ≠ "" := fun h =>
  empty_notMem_englishWords (h ▸ word_mem_englishWords i)

theorem spelled_english : Spelled english := fun _ =>
  Mnemonic.normalizeWord_eq_self fun _ hc => letter_of_mem_word hc

end WordList

end Airgap
