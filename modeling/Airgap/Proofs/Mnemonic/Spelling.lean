import Airgap.Proofs.Text.NormalForm
import Airgap.Proofs.Text.Split

/-!
# The spelling of a word is final

* `normalWord_normalWord`: a word brought to its spelling is left alone.
* `normalWord_eq_self`: so is a word of settled characters, such as the letters of `settled_letter`
  (`normalizeWord_eq_self`).
-/

namespace Airgap.Mnemonic

open Text (Settled Decomposed nfkd strip decompose isBlank)

theorem visible_eq_self {cs : List Char} (h : ∀ c ∈ cs, isInvisible c = false) :
    visible cs = cs := by
  refine List.filter_eq_self.mpr fun c hc => ?_
  rw [h c hc]
  rfl

theorem isInvisible_of_mem_visible {cs : List Char} {c : Char} (hc : c ∈ visible cs) :
    isInvisible c = false := by
  have h := (List.mem_filter.mp hc).2
  rwa [Bool.not_eq_true'] at h

theorem isInvisible_of_mem_nfkd {cs : List Char} {x : Char} (hx : x ∈ nfkd (visible cs)) :
    isInvisible x = false := by
  obtain ⟨c, hc, hx⟩ := Text.mem_nfkd.mp hx
  exact Text.isInvisible_of_mem_decompose (isInvisible_of_mem_visible hc) hx

/-- What a word looks like before it is folded. -/
theorem decomposed_strip (cs : List Char) : Decomposed (strip (nfkd (visible cs))) :=
  (Text.decomposed_nfkd _).of_isInfix (Text.strip_isInfix _)

theorem isInvisible_of_mem_normalWord {cs : List Char} {x : Char} (hx : x ∈ normalWord cs) :
    isInvisible x = false := by
  rcases Text.mem_fold_cases (decomposed_strip cs).atoms hx with ⟨hx, -⟩ | hx
  · exact isInvisible_of_mem_nfkd ((Text.strip_isInfix _).subset hx)
  · exact hx.isInvisible_eq

theorem strip_normalWord (cs : List Char) : strip (normalWord cs) = normalWord cs := by
  apply Text.strip_eq_self
  · intro c hc
    rcases Text.mem_head?_fold (decomposed_strip cs).atoms hc with hc | hc
    · exact Text.isBlank_of_mem_head?_strip hc
    · exact hc.isBlank_eq
  · intro c hc
    rcases Text.mem_getLast?_fold (decomposed_strip cs).atoms hc with hc | hc
    · exact Text.isBlank_of_mem_getLast?_strip hc
    · exact hc.isBlank_eq

/-- **The spelling of a word is final.** -/
theorem normalWord_normalWord (cs : List Char) : normalWord (normalWord cs) = normalWord cs := by
  have hvisible : visible (normalWord cs) = normalWord cs :=
    visible_eq_self fun x hx => isInvisible_of_mem_normalWord hx
  have hdecomposed : Decomposed (normalWord cs) := (decomposed_strip cs).fold
  have hfold : Text.fold (normalWord cs) = normalWord cs := (decomposed_strip cs).fold_fold
  calc normalWord (normalWord cs)
      = Text.fold (strip (nfkd (normalWord cs))) := by rw [normalWord, hvisible]
    _ = Text.fold (normalWord cs) := by rw [hdecomposed.nfkd_eq, strip_normalWord]
    _ = normalWord cs := hfold

theorem normalizeWord_normalizeWord (w : String) :
    normalizeWord (normalizeWord w) = normalizeWord w := by
  rw [normalizeWord, onString, onString, String.toList_ofList, normalWord_normalWord]

/-! ## Settled words -/

/-- A word of settled characters has its spelling. -/
theorem normalWord_eq_self {cs : List Char} (h : ∀ c ∈ cs, Settled c) : normalWord cs = cs := by
  have hvisible : visible cs = cs := visible_eq_self fun c hc => (h c hc).isInvisible_eq
  have hnfkd : nfkd cs = cs := Decomposed.nfkd_eq <| Text.decomposed_of_starters
    (fun c hc => (h c hc).decompose_eq) fun c hc => (h c hc).combiningClass_eq
  have hstrip : strip cs = cs := Text.strip_eq_self
    (fun c hc => (h c (List.mem_of_mem_head? hc)).isBlank_eq)
    fun c hc => (h c (List.mem_of_getLast? hc)).isBlank_eq
  have hfold : Text.fold cs = cs := Text.flatMap_eq_self fun c hc => (h c hc).fold_eq
  rw [normalWord, hvisible, hnfkd, hstrip, hfold]

theorem isSettled_letters : ((List.range' 97 26).all Text.isSettled) = true := by
  set_option maxRecDepth 20000 in decide

/-- The letters from `a` to `z` are settled. -/
theorem settled_letter {c : Char} (hlow : 97 ≤ c.toNat) (hhigh : c.toNat ≤ 122) : Settled c := by
  have h := List.all_eq_true.mp isSettled_letters c.toNat (List.mem_range'_1.mpr ⟨hlow, by omega⟩)
  have hsettled := Text.settled_of_isSettled h
  rwa [Char.ofNat_toNat] at hsettled

/-- A word of the letters from `a` to `z` has its spelling. -/
theorem normalizeWord_eq_self {w : String} (h : ∀ c ∈ w.toList, 97 ≤ c.toNat ∧ c.toNat ≤ 122) :
    normalizeWord w = w := by
  have hword : normalWord w.toList = w.toList := by
    refine normalWord_eq_self fun c hc => ?_
    obtain ⟨hlow, hhigh⟩ := h c hc
    exact settled_letter hlow hhigh
  rw [normalizeWord, onString, hword, String.ofList_toList]

end Airgap.Mnemonic
