import Airgap.Text.Split
import Mathlib.Data.List.Infix
import Mathlib.Data.List.TakeWhile

/-!
# Splitting text

* `strip_isInfix`, `isBlank_of_mem_head?_strip`, `isBlank_of_mem_getLast?_strip`: stripped text is a part
  of the text and has no blank at its ends.
* `strip_eq_self`: such text is left alone.
* `Padded`: a text with blanks around it, with `Padded.strip_eq` and `Padded.map_strip_splitWhere`.
* `splitWhere_intercalate`, `fields_joinWords`: joined words are split into the words.
* `intercalate_splitWhere`: the pieces of a text, joined again, are the text.
-/

namespace Airgap.Text

theorem isBlank_of_mem_head?_dropWhile {cs : List Char} {c : Char}
    (hc : c ∈ (cs.dropWhile isBlank).head?) : isBlank c = false := by
  have h := List.head?_dropWhile_not isBlank cs
  rw [Option.mem_def.mp hc] at h
  exact h

theorem dropWhile_isBlank_eq_self {cs : List Char} (h : ∀ c ∈ cs.head?, isBlank c = false) :
    cs.dropWhile isBlank = cs := by
  cases cs with
  | nil => rfl
  | cons c cs => rw [List.dropWhile_cons, h c rfl, if_neg Bool.false_ne_true]

theorem strip_isPrefix (cs : List Char) : strip cs <+: cs.dropWhile isBlank := by
  have h := List.dropWhile_suffix (l := (cs.dropWhile isBlank).reverse) isBlank
  rw [← List.reverse_prefix, List.reverse_reverse] at h
  exact h

theorem strip_isInfix (cs : List Char) : strip cs <:+: cs :=
  (strip_isPrefix cs).isInfix.trans (List.dropWhile_suffix isBlank).isInfix

theorem isBlank_of_mem_head?_strip {cs : List Char} {c : Char} (hc : c ∈ (strip cs).head?) :
    isBlank c = false := by
  obtain ⟨rest, hrest⟩ := List.head?_eq_some_iff.mp hc
  obtain ⟨more, hmore⟩ := strip_isPrefix cs
  have hdrop : c ∈ (cs.dropWhile isBlank).head? := by
    rw [← hmore, hrest]
    rfl
  exact isBlank_of_mem_head?_dropWhile hdrop

theorem isBlank_of_mem_getLast?_strip {cs : List Char} {c : Char}
    (hc : c ∈ (strip cs).getLast?) : isBlank c = false := by
  rw [strip, List.getLast?_reverse] at hc
  exact isBlank_of_mem_head?_dropWhile hc

/-- Text without blanks at its ends has none to lose. -/
theorem strip_eq_self {cs : List Char} (hhead : ∀ c ∈ cs.head?, isBlank c = false)
    (hlast : ∀ c ∈ cs.getLast?, isBlank c = false) : strip cs = cs := by
  have hreverse : cs.reverse.dropWhile isBlank = cs.reverse :=
    dropWhile_isBlank_eq_self fun c hc => hlast c (by rwa [List.head?_reverse] at hc)
  rw [strip, dropWhile_isBlank_eq_self hhead, hreverse, List.reverse_reverse]

/-! ## Blanks around a text -/

/-- Whether the second text is the first with blanks around it. -/
def Padded (inner outer : List Char) : Prop :=
  ∃ before after : List Char, (∀ c ∈ before, isBlank c = true) ∧ (∀ c ∈ after, isBlank c = true) ∧
    outer = before ++ inner ++ after

theorem Padded.refl (cs : List Char) : Padded cs cs :=
  ⟨[], [], fun _ hc => (nomatch hc), fun _ hc => (nomatch hc), (List.append_nil cs).symm⟩

theorem padded_strip (cs : List Char) : Padded (strip cs) cs := by
  have hback := List.takeWhile_append_dropWhile (p := isBlank) (l := (cs.dropWhile isBlank).reverse)
  refine ⟨cs.takeWhile isBlank, ((cs.dropWhile isBlank).reverse.takeWhile isBlank).reverse,
    fun c hc => List.mem_takeWhile_imp hc,
    fun c hc => List.mem_takeWhile_imp (List.mem_reverse.mp hc), ?_⟩
  rw [strip, List.append_assoc, ← List.reverse_append, hback, List.reverse_reverse,
    List.takeWhile_append_dropWhile]

/-- Blanks around a text are lost. -/
theorem Padded.strip_eq {inner outer : List Char} (h : Padded inner outer) :
    strip outer = strip inner := by
  obtain ⟨before, after, hbefore, hafter, rfl⟩ := h
  rw [strip, strip, List.append_assoc, List.dropWhile_append_of_pos hbefore, List.dropWhile_append]
  split
  · -- nothing but blanks
    rename_i hempty
    rw [List.isEmpty_iff.mp hempty, List.dropWhile_eq_nil_iff.mpr hafter]
  · rw [List.reverse_append, List.dropWhile_append_of_pos fun c hc => hafter c (List.mem_reverse.mp hc)]

/-! ## Joined words -/

section Join

variable {p : Char → Bool} {w : List Char} {ws : List (List Char)}

/-- A text without separators is one piece. -/
theorem splitWhere_eq_singleton (hw : ∀ c ∈ w, p c = false) : splitWhere p w = [w] := by
  induction w with
  | nil => rfl
  | cons c w ih =>
    obtain ⟨hc, hw⟩ := List.forall_mem_cons.mp hw
    rw [splitWhere, hc, ih hw]
    rfl

/-- The first separator ends the first piece. -/
theorem splitWhere_append_cons (hw : ∀ c ∈ w, p c = false) {sep : Char} (hsep : p sep = true)
    (cs : List Char) : splitWhere p (w ++ sep :: cs) = w :: splitWhere p cs := by
  induction w with
  | nil => rw [List.nil_append, splitWhere, if_pos hsep]
  | cons c w ih =>
    obtain ⟨hc, hw⟩ := List.forall_mem_cons.mp hw
    rw [List.cons_append, splitWhere, hc, ih hw]
    rfl

/-- Words that are joined by a separator come back. -/
theorem splitWhere_intercalate {sep : Char} (hsep : p sep = true) (hne : ws ≠ [])
    (hws : ∀ w ∈ ws, ∀ c ∈ w, p c = false) : splitWhere p ([sep].intercalate ws) = ws := by
  induction ws with
  | nil => exact absurd rfl hne
  | cons w ws ih =>
    obtain ⟨hw, hws⟩ := List.forall_mem_cons.mp hws
    cases ws with
    | nil => rw [List.intercalate_singleton, splitWhere_eq_singleton hw]
    | cons v vs =>
      rw [List.intercalate_cons_cons, List.append_assoc, List.singleton_append,
        splitWhere_append_cons hw hsep, ih (List.cons_ne_nil v vs) hws]

theorem isInfix_intercalate {sep : Char} (hw : w ∈ ws) : w <:+: [sep].intercalate ws := by
  induction ws with
  | nil => exact nomatch hw
  | cons v ws ih =>
    cases ws with
    | nil =>
      rw [List.intercalate_singleton, List.mem_singleton.mp hw]
    | cons u us =>
      rw [List.intercalate_cons_cons]
      rcases List.mem_cons.mp hw with rfl | hw
      · rw [List.append_assoc]
        exact (List.prefix_append w _).isInfix
      · exact (ih hw).trans (List.suffix_append _ _).isInfix

/-- The pieces of a text, joined again. -/
theorem intercalate_splitWhere (sep : Char) (cs : List Char) :
    [sep].intercalate (splitWhere (· == sep) cs) = cs := by
  induction cs with
  | nil => rfl
  | cons c cs ih =>
    obtain ⟨w, ws, hsplit⟩ := List.exists_cons_of_ne_nil (splitWhere_ne_nil (· == sep) cs)
    rw [hsplit] at ih
    rw [splitWhere, hsplit]
    by_cases hc : c = sep
    · subst hc
      simp only [beq_self_eq_true, if_true]
      rw [List.intercalate_cons_cons, ih]
      rfl
    · simp only [beq_iff_eq, hc, if_false]
      cases ws with
      | nil =>
        rw [List.intercalate_singleton] at ih ⊢
        rw [ih]
      | cons v vs =>
        rw [List.intercalate_cons_cons] at ih ⊢
        rw [List.cons_append, List.cons_append, ih]

/-- Characters in front that are no separators belong to the first piece. -/
theorem exists_splitWhere_prepend (cs : List Char) (hw : ∀ c ∈ w, p c = false) :
    ∃ v vs, splitWhere p cs = v :: vs ∧ splitWhere p (w ++ cs) = (w ++ v) :: vs := by
  induction w with
  | nil =>
    obtain ⟨v, vs, hsplit⟩ := List.exists_cons_of_ne_nil (splitWhere_ne_nil p cs)
    exact ⟨v, vs, hsplit, hsplit⟩
  | cons c w ih =>
    obtain ⟨hc, hw⟩ := List.forall_mem_cons.mp hw
    obtain ⟨v, vs, hsplit, hmore⟩ := ih hw
    refine ⟨v, vs, hsplit, ?_⟩
    rw [List.cons_append, splitWhere, hc, hmore]
    rfl

/-- Characters behind that are no separators belong to the last piece. -/
theorem exists_splitWhere_append (cs : List Char) (hw : ∀ c ∈ w, p c = false) :
    ∃ vs v, splitWhere p cs = vs ++ [v] ∧ splitWhere p (cs ++ w) = vs ++ [v ++ w] := by
  induction cs with
  | nil => exact ⟨[], [], rfl, splitWhere_eq_singleton hw⟩
  | cons c cs ih =>
    obtain ⟨vs, v, hsplit, hmore⟩ := ih
    rw [List.cons_append, splitWhere, splitWhere, hsplit, hmore]
    cases p c with
    | true => exact ⟨[] :: vs, v, rfl, rfl⟩
    | false =>
      cases vs with
      | nil => exact ⟨[], c :: v, rfl, rfl⟩
      | cons u us => exact ⟨(c :: u) :: us, v, rfl, rfl⟩

/-- Blanks around a text are blanks around its first and its last piece. -/
theorem Padded.map_strip_splitWhere {inner outer : List Char} (h : Padded inner outer)
    (hp : ∀ c, isBlank c = true → p c = false) :
    (splitWhere p outer).map strip = (splitWhere p inner).map strip := by
  obtain ⟨before, after, hbefore, hafter, rfl⟩ := h
  obtain ⟨v, vs, hfirst, hmore⟩ :=
    exists_splitWhere_prepend (inner ++ after) fun c hc => hp c (hbefore c hc)
  obtain ⟨us, u, hlast, hmore'⟩ := exists_splitWhere_append inner fun c hc => hp c (hafter c hc)
  have hv : strip (before ++ v) = strip v :=
    Padded.strip_eq ⟨before, [], hbefore, fun _ hc => (nomatch hc), (List.append_nil _).symm⟩
  have hu : strip (u ++ after) = strip u :=
    Padded.strip_eq ⟨[], after, fun _ hc => (nomatch hc), hafter, rfl⟩
  calc (splitWhere p (before ++ inner ++ after)).map strip
      = (splitWhere p (inner ++ after)).map strip := by
        rw [List.append_assoc, hmore, hfirst, List.map_cons, List.map_cons, hv]
    _ = (splitWhere p inner).map strip := by
        rw [hmore', hlast, List.map_append, List.map_append, List.map_singleton, List.map_singleton, hu]

/-- Joined words hold the characters of the words and the separator. -/
theorem eq_or_mem_of_mem_intercalate {sep c : Char} (hc : c ∈ [sep].intercalate ws) :
    c = sep ∨ ∃ w ∈ ws, c ∈ w := by
  induction ws with
  | nil => exact absurd hc List.not_mem_nil
  | cons w ws ih =>
    cases ws with
    | nil =>
      rw [List.intercalate_singleton] at hc
      exact .inr ⟨w, List.mem_cons_self, hc⟩
    | cons v vs =>
      rw [List.intercalate_cons_cons, List.append_assoc, List.singleton_append, List.mem_append,
        List.mem_cons] at hc
      rcases hc with hc | rfl | hc
      · exact .inr ⟨w, List.mem_cons_self, hc⟩
      · exact .inl rfl
      · refine (ih hc).imp_right ?_
        rintro ⟨u, hu, hc⟩
        exact ⟨u, List.mem_cons_of_mem w hu, hc⟩

/-- The fields of joined words are the words. -/
theorem fields_joinWords (hne : ∀ w ∈ ws, w ≠ []) (hws : ∀ w ∈ ws, ∀ c ∈ w, isBlank c = false) :
    fields (joinWords ws) = ws := by
  by_cases hempty : ws = []
  · subst hempty
    rfl
  · rw [fields, joinWords, splitWhere_intercalate rfl hempty hws]
    refine List.filter_eq_self.mpr fun w hw => ?_
    rw [List.isEmpty_eq_false_iff.mpr (hne w hw)]
    rfl

end Join

end Airgap.Text
