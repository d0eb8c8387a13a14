import Airgap.Proofs.Text.Tables
import Airgap.Text.NormalForm
import Mathlib.Data.List.Chain

/-!
# Decomposed text

* `Decomposed`: text whose characters do not decompose and whose marks are in order.
* `decomposed_nfkd`, `Decomposed.nfkd_eq`: decomposition makes such text and leaves it alone.
* `Decomposed.fold`, `Decomposed.fold_fold`: so does folding with decomposed text, and twice is once.
-/

namespace Airgap.Text

open Mnemonic (isInvisible)

/-! ## Order of marks -/

/-- Whether `y` may stand behind `x` in a reordered text. -/
def mayFollow (x y : Char) : Prop := combiningClass y = 0 ∨ combiningClass x ≤ combiningClass y

/-- Text that reordering leaves alone. -/
def InOrder (cs : List Char) : Prop := cs.IsChain mayFollow

theorem mem_head?_insertMark {c y : Char} {cs : List Char} (hy : y ∈ (insertMark c cs).head?) :
    y = c ∨ y ∈ cs.head? := by
  cases cs with
  | nil => exact .inl (Option.some.inj hy).symm
  | cons x xs =>
    rw [insertMark] at hy
    split at hy
    · exact .inr hy
    · exact .inl (Option.some.inj hy).symm

theorem InOrder.insertMark {cs : List Char} (h : InOrder cs) (c : Char) :
    InOrder (insertMark c cs) := by
  induction cs with
  | nil => exact List.isChain_singleton c
  | cons x xs ih =>
    obtain ⟨hhead, htail⟩ := List.isChain_cons.mp h
    rw [Text.insertMark]
    split
    · rename_i hlt
      refine List.isChain_cons.mpr ⟨fun y hy => ?_, ih htail⟩
      rcases mem_head?_insertMark hy with rfl | hy
      · exact .inr (Nat.le_of_lt hlt.2)
      · exact hhead y hy
    · rename_i hle
      refine List.isChain_cons_cons.mpr ⟨?_, h⟩
      unfold mayFollow
      omega

theorem inOrder_reorder (cs : List Char) : InOrder (reorder cs) := by
  induction cs with
  | nil => exact List.isChain_nil
  | cons c cs ih => exact ih.insertMark c

theorem InOrder.reorder_eq {cs : List Char} (h : InOrder cs) : reorder cs = cs := by
  induction cs with
  | nil => rfl
  | cons c cs ih =>
    obtain ⟨hhead, htail⟩ := List.isChain_cons.mp h
    have hcons : reorder (c :: cs) = Text.insertMark c (reorder cs) := rfl
    rw [hcons, ih htail]
    cases cs with
    | nil => rfl
    | cons x xs =>
      have hx := hhead x rfl
      unfold mayFollow at hx
      rw [Text.insertMark, if_neg (by omega)]

/-- Characters of class zero may stand in front of any text. -/
theorem InOrder.append {cs ds : List Char} (hcs : ∀ c ∈ cs, combiningClass c = 0)
    (hds : InOrder ds) : InOrder (cs ++ ds) := by
  induction cs with
  | nil => exact hds
  | cons c cs ih =>
    refine List.isChain_cons.mpr ⟨fun y _ => .inr ?_, ih fun d hd => hcs d (List.mem_cons_of_mem c hd)⟩
    rw [hcs c List.mem_cons_self]
    exact Nat.zero_le _

/-- Text without marks is in order. -/
theorem inOrder_of_starters {cs : List Char} (hcs : ∀ c ∈ cs, combiningClass c = 0) : InOrder cs := by
  have h := InOrder.append hcs List.isChain_nil
  rwa [List.append_nil] at h

/-- A character of class zero parts two runs of marks. -/
theorem InOrder.append_cons {cs ds : List Char} (hcs : InOrder cs) (hds : InOrder ds) {c : Char}
    (hc : combiningClass c = 0) : InOrder (cs ++ c :: ds) := by
  refine List.isChain_append.mpr ⟨hcs, List.isChain_cons.mpr ⟨fun y _ => .inr ?_, hds⟩, fun x _ y hy => ?_⟩
  · rw [hc]
    exact Nat.zero_le _
  · obtain rfl : c = y := Option.some.inj hy
    exact .inl hc

/-! ## Decomposition -/

theorem flatMap_eq_self {f : Char → List Char} {cs : List Char} (h : ∀ c ∈ cs, f c = [c]) :
    cs.flatMap f = cs := by
  rw [List.flatMap_congr h, List.flatMap_singleton']

/-- Text whose characters do not decompose and whose marks are in order. -/
structure Decomposed (cs : List Char) : Prop where
  atoms : ∀ c ∈ cs, decompose c = [c]
  inOrder : InOrder cs

theorem mem_nfkd {cs : List Char} {x : Char} : x ∈ nfkd cs ↔ ∃ c ∈ cs, x ∈ decompose c := by
  rw [nfkd, (reorder_perm _).mem_iff, List.mem_flatMap]

theorem decomposed_nfkd (cs : List Char) : Decomposed (nfkd cs) := by
  refine ⟨fun x hx => ?_, inOrder_reorder _⟩
  obtain ⟨c, -, hc⟩ := mem_nfkd.mp hx
  exact decompose_of_mem_decompose hc

variable {cs : List Char}

/-- Decomposed text decomposes to itself. -/
theorem Decomposed.nfkd_eq (h : Decomposed cs) : nfkd cs = cs := by
  rw [nfkd, flatMap_eq_self h.atoms, h.inOrder.reorder_eq]

/-- Text of characters of class zero that do not decompose is decomposed. -/
theorem decomposed_of_starters (hatoms : ∀ c ∈ cs, decompose c = [c])
    (hclass : ∀ c ∈ cs, combiningClass c = 0) : Decomposed cs :=
  ⟨hatoms, inOrder_of_starters hclass⟩

theorem Decomposed.of_isInfix {ds : List Char} (h : Decomposed cs) (hds : ds <:+: cs) :
    Decomposed ds := by
  refine ⟨fun c hc => h.atoms c (hds.subset hc), ?_⟩
  obtain ⟨before, after, rfl⟩ := hds
  exact h.inOrder.left_of_append.right_of_append

/-! ## Folding -/

theorem mem_fold {x : Char} : x ∈ fold cs ↔ ∃ c ∈ cs, x ∈ foldMap.apply c := List.mem_flatMap

theorem fold_cons (c : Char) (cs : List Char) : fold (c :: cs) = foldMap.apply c ++ fold cs :=
  List.flatMap_cons

/-- What folding leaves of a text that does not decompose, and what it adds. -/
theorem mem_fold_cases (h : ∀ c ∈ cs, decompose c = [c]) {x : Char} (hx : x ∈ fold cs) :
    x ∈ cs ∧ foldMap.apply x = [x] ∨ Settled x := by
  obtain ⟨c, hc, hx⟩ := mem_fold.mp hx
  rcases fold_cases (h c hc) with hself | ⟨-, hsettled⟩
  · rw [hself, List.mem_singleton] at hx
    subst hx
    exact .inl ⟨hc, hself⟩
  · exact .inr (hsettled x hx)

theorem mem_head?_fold (h : ∀ c ∈ cs, decompose c = [c]) {x : Char} (hx : x ∈ (fold cs).head?) :
    x ∈ cs.head? ∨ Settled x := by
  cases cs with
  | nil => exact nomatch hx
  | cons c cs =>
    rw [fold_cons] at hx
    rcases fold_cases (h c List.mem_cons_self) with hself | ⟨hne, hsettled⟩
    · rw [hself] at hx
      exact .inl hx
    · rw [List.head?_append_of_ne_nil _ hne] at hx
      exact .inr (hsettled x (List.mem_of_mem_head? hx))

theorem mem_getLast?_fold (h : ∀ c ∈ cs, decompose c = [c]) {x : Char}
    (hx : x ∈ (fold cs).getLast?) : x ∈ cs.getLast? ∨ Settled x := by
  rcases List.eq_nil_or_concat cs with rfl | ⟨ds, d, rfl⟩
  · exact nomatch hx
  · have hd : decompose d = [d] := h d (by simp)
    rw [List.concat_eq_append, fold_append] at hx
    have hsingle : fold [d] = foldMap.apply d := by simp [fold]
    rw [hsingle] at hx
    rcases fold_cases hd with hself | ⟨hne, hsettled⟩
    · rw [hself] at hx
      exact .inl (by simpa using hx)
    · rw [List.getLast?_append_of_ne_nil _ hne] at hx
      exact .inr (hsettled x (List.mem_of_getLast? hx))

/-- **Folding keeps text decomposed.** -/
theorem Decomposed.fold (h : Decomposed cs) : Decomposed (fold cs) := by
  refine ⟨fun x hx => ?_, ?_⟩
  · rcases mem_fold_cases h.atoms hx with ⟨hx, -⟩ | hx
    · exact h.atoms x hx
    · exact hx.decompose_eq
  · obtain ⟨hatoms, horder⟩ := h
    induction cs with
    | nil => exact List.isChain_nil
    | cons c cs ih =>
      obtain ⟨hhead, htail⟩ := List.isChain_cons.mp horder
      have hcs : ∀ d ∈ cs, decompose d = [d] := fun d hd => hatoms d (List.mem_cons_of_mem c hd)
      rw [fold_cons]
      rcases fold_cases (hatoms c List.mem_cons_self) with hself | ⟨-, hsettled⟩
      · rw [hself]
        refine List.isChain_cons.mpr ⟨fun y hy => ?_, ih hcs htail⟩
        rcases mem_head?_fold hcs hy with hy | hy
        · exact hhead y hy
        · exact .inl hy.combiningClass_eq
      · exact (ih hcs htail).append fun x hx => (hsettled x hx).combiningClass_eq

theorem Decomposed.fold_fold (h : Decomposed cs) : Text.fold (Text.fold cs) = Text.fold cs := by
  apply flatMap_eq_self
  intro x hx
  rcases mem_fold_cases h.atoms hx with ⟨-, hx⟩ | hx
  · exact hx
  · exact hx.fold_eq

end Airgap.Text
