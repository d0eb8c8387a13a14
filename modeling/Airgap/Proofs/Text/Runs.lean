import Airgap.Proofs.Text.Split
import Mathlib.Data.List.Chain

/-!
# Maximal runs

* `Runs`: what the maximal runs of a text between its blanks are, said without a splitter; every text has
  exactly one list of them (`runs_iff`), and `fields` finds it.
* `Runs.flatMap`: a change of the characters one by one that keeps blanks apart from the others keeps the
  runs apart.
* `SingleSpaced`: text with one space between its runs and no other blanks, with
  `singleSpaced_joinWords` and `SingleSpaced.joinWords_fields`.
-/

namespace Airgap.Text

/-- The texts are the maximal runs of characters that are not blank, in their order. A run begins after
blanks only, and a blank or the end of the text follows it. -/
inductive Runs : List Char → List (List Char) → Prop
  | blank {cs : List Char} (hcs : ∀ c ∈ cs, isBlank c = true) : Runs cs []
  | run {before w after : List Char} {ws : List (List Char)} (hbefore : ∀ c ∈ before, isBlank c = true)
      (hne : w ≠ []) (hw : ∀ c ∈ w, isBlank c = false) (hafter : ∀ c ∈ after.head?, isBlank c = true)
      (hruns : Runs after ws) : Runs (before ++ w ++ after) (w :: ws)

variable {p : Char → Bool} {c : Char} {cs w : List Char} {ws : List (List Char)}

/-! ## Fields -/

/-- A separator parts the pieces before it from those after it. -/
theorem splitWhere_append_sep {sep : Char} (hsep : p sep = true) (cs ds : List Char) :
    splitWhere p (cs ++ sep :: ds) = splitWhere p cs ++ splitWhere p ds := by
  induction cs with
  | nil => exact splitWhere_append_cons (List.forall_mem_nil _) hsep ds
  | cons c cs ih =>
    rw [List.cons_append, splitWhere, splitWhere, ih]
    obtain ⟨v, vs, hsplit⟩ := List.exists_cons_of_ne_nil (splitWhere_ne_nil p cs)
    rw [hsplit]
    cases p c <;> rfl

theorem fields_append_blank (hc : isBlank c = true) (cs ds : List Char) :
    fields (cs ++ c :: ds) = fields cs ++ fields ds := by
  rw [fields, splitWhere_append_sep hc, List.filter_append, fields, fields]

/-- A blank in front belongs to no field. -/
theorem fields_cons_blank (hc : isBlank c = true) (cs : List Char) : fields (c :: cs) = fields cs :=
  fields_append_blank hc [] cs

theorem fields_blanks_append {before : List Char} (hbefore : ∀ c ∈ before, isBlank c = true)
    (cs : List Char) : fields (before ++ cs) = fields cs := by
  induction before with
  | nil => rfl
  | cons c before ih =>
    obtain ⟨hc, hbefore⟩ := List.forall_mem_cons.mp hbefore
    rw [List.cons_append, fields_cons_blank hc, ih hbefore]

theorem fields_of_blanks (hcs : ∀ c ∈ cs, isBlank c = true) : fields cs = [] := by
  have h := fields_blanks_append hcs []
  rwa [List.append_nil] at h

theorem fields_of_word (hne : w ≠ []) (hw : ∀ c ∈ w, isBlank c = false) : fields w = [w] := by
  rw [fields, splitWhere_eq_singleton hw, List.filter_singleton, List.isEmpty_eq_false_iff.mpr hne]
  rfl

/-- Fields are not empty and hold no blanks. -/
theorem of_mem_fields (hmem : w ∈ fields cs) : w ≠ [] ∧ ∀ c ∈ w, isBlank c = false := by
  obtain ⟨hw, hne⟩ := List.mem_filter.mp hmem
  refine ⟨?_, fun c hc => not_of_mem_splitWhere hw hc⟩
  rintro rfl
  exact nomatch hne

/-! ## Runs -/

theorem Runs.fields_eq (h : Runs cs ws) : fields cs = ws := by
  induction h with
  | blank hcs => exact fields_of_blanks hcs
  | @run before w after ws hbefore hne hw hafter _ ih =>
    rw [List.append_assoc, fields_blanks_append hbefore]
    cases after with
    | nil =>
      -- no field is left
      rw [List.append_nil, fields_of_word hne hw, ← ih]
      rfl
    | cons c after =>
      have hc : isBlank c = true := hafter c rfl
      rw [fields_append_blank hc, fields_of_word hne hw, ← ih, fields_cons_blank hc]
      rfl

theorem Runs.cons_blank (h : Runs cs ws) (hc : isBlank c = true) : Runs (c :: cs) ws := by
  cases h with
  | blank hcs => exact .blank (List.forall_mem_cons.mpr ⟨hc, hcs⟩)
  | @run before w after ws hbefore hne hw hafter hruns =>
    have hmore : ∀ d ∈ c :: before, isBlank d = true := List.forall_mem_cons.mpr ⟨hc, hbefore⟩
    exact .run hmore hne hw hafter hruns

/-- A character that is not blank begins a run or makes the first one longer. -/
theorem Runs.exists_cons (h : Runs cs ws) (hc : isBlank c = false) : ∃ vs, Runs (c :: cs) vs := by
  have hsingle : ∀ d ∈ [c], isBlank d = false := List.forall_mem_singleton.mpr hc
  have hnone : ∀ d ∈ ([] : List Char), isBlank d = true := List.forall_mem_nil _
  have hrun := h
  cases h with
  | blank hcs =>
    exact ⟨[[c]], .run hnone (List.cons_ne_nil c []) hsingle
      (fun d hd => hcs d (List.mem_of_mem_head? hd)) hrun⟩
  | @run before w after ws hbefore hne hw hafter hruns =>
    cases before with
    | nil =>
      exact ⟨(c :: w) :: ws, .run hnone (List.cons_ne_nil c w) (List.forall_mem_cons.mpr ⟨hc, hw⟩)
        hafter hruns⟩
    | cons b before =>
      refine ⟨[c] :: w :: ws, .run hnone (List.cons_ne_nil c []) hsingle (fun d hd => ?_) hrun⟩
      obtain rfl : b = d := Option.some.inj hd
      exact hbefore b List.mem_cons_self

theorem exists_runs (cs : List Char) : ∃ ws, Runs cs ws := by
  induction cs with
  | nil => exact ⟨[], .blank fun _ hc => nomatch hc⟩
  | cons c cs ih =>
    obtain ⟨ws, hws⟩ := ih
    cases hc : isBlank c with
    | true => exact ⟨ws, hws.cons_blank hc⟩
    | false => exact hws.exists_cons hc

/-- **The fields of a text are its maximal runs**, and it has no others. -/
theorem runs_iff : Runs cs ws ↔ fields cs = ws := by
  refine ⟨Runs.fields_eq, ?_⟩
  rintro rfl
  obtain ⟨vs, hvs⟩ := exists_runs cs
  rwa [hvs.fields_eq]

theorem fields_eq_nil_iff : fields cs = [] ↔ ∀ c ∈ cs, isBlank c = true := by
  refine ⟨fun h => ?_, fields_of_blanks⟩
  cases runs_iff.mpr h with
  | blank hcs => exact hcs

theorem strip_eq_nil_iff : strip cs = [] ↔ ∀ c ∈ cs, isBlank c = true := by
  constructor
  · intro hempty c hc
    obtain ⟨before, after, hbefore, hafter, hcs⟩ := padded_strip cs
    rw [hempty, List.append_nil] at hcs
    rw [hcs, List.mem_append] at hc
    exact hc.elim (hbefore c) (hafter c)
  · intro hcs
    rw [strip, List.dropWhile_eq_nil_iff.mpr hcs]
    rfl

/-- A character that is not blank lies in a run. -/
theorem Runs.exists_mem (h : Runs cs ws) (hmem : c ∈ cs) (hc : isBlank c = false) :
    ∃ w ∈ ws, c ∈ w := by
  induction h with
  | blank hcs => exact absurd (hcs c hmem) (Bool.eq_false_iff.mp hc)
  | @run before w after ws hbefore hne hw hafter _ ih =>
    rcases List.mem_append.mp hmem with hmem | hmem
    · rcases List.mem_append.mp hmem with hmem | hmem
      · exact absurd (hbefore c hmem) (Bool.eq_false_iff.mp hc)
      · exact ⟨w, List.mem_cons_self, hmem⟩
    · obtain ⟨v, hv, hmem⟩ := ih hmem
      exact ⟨v, List.mem_cons_of_mem w hv, hmem⟩

theorem Runs.isInfix (h : Runs cs ws) (hw : w ∈ ws) : w <:+: cs := by
  induction h with
  | blank _ => exact nomatch hw
  | @run before v after vs _ _ _ _ _ ih =>
    rcases List.mem_cons.mp hw with rfl | hw
    · exact ⟨before, after, rfl⟩
    · exact (ih hw).trans (List.suffix_append _ _).isInfix

theorem isInfix_of_mem_fields (hmem : w ∈ fields cs) : w <:+: cs := (runs_iff.mpr rfl).isInfix hmem

/-- Runs stay apart if blanks become blanks and the others do not, and no character is lost. -/
theorem Runs.flatMap {f : Char → List Char} (h : Runs cs ws) (hne : ∀ c ∈ cs, f c ≠ [])
    (hf : ∀ c ∈ cs, ∀ x ∈ f c, isBlank x = isBlank c) :
    Runs (cs.flatMap f) (ws.map (·.flatMap f)) := by
  induction h with
  | blank hcs =>
    refine .blank fun x hx => ?_
    obtain ⟨c, hc, hx⟩ := List.mem_flatMap.mp hx
    rw [hf c hc x hx, hcs c hc]
  | @run before w after ws hbefore hwne hw hafter _ ih =>
    simp only [List.forall_mem_append] at hne hf
    obtain ⟨⟨-, hnew⟩, hneafter⟩ := hne
    obtain ⟨⟨hfbefore, hfw⟩, hfafter⟩ := hf
    rw [List.flatMap_append, List.flatMap_append, List.map_cons]
    refine .run ?_ ?_ ?_ ?_ (ih hneafter hfafter)
    · intro x hx
      obtain ⟨c, hc, hx⟩ := List.mem_flatMap.mp hx
      rw [hfbefore c hc x hx, hbefore c hc]
    · intro hempty
      obtain ⟨c, hc⟩ := List.exists_mem_of_ne_nil w hwne
      exact hnew c hc (List.flatMap_eq_nil_iff.mp hempty c hc)
    · intro x hx
      obtain ⟨c, hc, hx⟩ := List.mem_flatMap.mp hx
      rw [hfw c hc x hx, hw c hc]
    · cases after with
      | nil => exact fun _ hx => nomatch hx
      | cons c after =>
        intro x hx
        rw [List.flatMap_cons, List.head?_append_of_ne_nil _ (hneafter c List.mem_cons_self)] at hx
        rw [hfafter c List.mem_cons_self x (List.mem_of_mem_head? hx), hafter c rfl]

/-! ## One space between words -/

/-- Text with no two blanks in a row. -/
def Apart (cs : List Char) : Prop := cs.IsChain fun a b => isBlank a = false ∨ isBlank b = false

/-- Text with no blank at its ends and no two in a row, all of them spaces. -/
structure SingleSpaced (cs : List Char) : Prop where
  head : ∀ c ∈ cs.head?, isBlank c = false
  last : ∀ c ∈ cs.getLast?, isBlank c = false
  space : ∀ c ∈ cs, isBlank c = true → c = ' '
  apart : Apart cs

theorem singleSpaced_of_word (hw : ∀ c ∈ w, isBlank c = false) : SingleSpaced w where
  head c hc := hw c (List.mem_of_mem_head? hc)
  last c hc := hw c (List.mem_of_getLast? hc)
  space c hc hblank := absurd hblank (Bool.eq_false_iff.mp (hw c hc))
  apart := by
    induction w with
    | nil => exact List.isChain_nil
    | cons c w ih =>
      obtain ⟨hc, hw⟩ := List.forall_mem_cons.mp hw
      exact List.isChain_cons.mpr ⟨fun _ _ => .inl hc, ih hw⟩

theorem joinWords_cons_cons (w v : List Char) (ws : List (List Char)) :
    joinWords (w :: v :: ws) = w ++ ' ' :: joinWords (v :: ws) := by
  rw [joinWords, List.intercalate_cons_cons, List.append_assoc, List.singleton_append, joinWords]

theorem joinWords_ne_nil (hne : ∀ w ∈ ws, w ≠ []) (hws : ws ≠ []) : joinWords ws ≠ [] := by
  intro hempty
  obtain ⟨w, hw⟩ := List.exists_mem_of_ne_nil ws hws
  have hpart : w <:+: joinWords ws := isInfix_intercalate hw
  rw [hempty, List.infix_nil] at hpart
  exact hne w hw hpart

/-- Joined words are parted by one space each. -/
theorem singleSpaced_joinWords (hne : ∀ w ∈ ws, w ≠ []) (hws : ∀ w ∈ ws, ∀ c ∈ w, isBlank c = false) :
    SingleSpaced (joinWords ws) := by
  induction ws with
  | nil => exact singleSpaced_of_word fun _ hc => nomatch hc
  | cons w ws ih =>
    obtain ⟨hwne, hne⟩ := List.forall_mem_cons.mp hne
    obtain ⟨hw, hws⟩ := List.forall_mem_cons.mp hws
    cases ws with
    | nil =>
      rw [joinWords, List.intercalate_singleton]
      exact singleSpaced_of_word hw
    | cons v vs =>
      obtain ⟨hhead, hlast, hspace, hapart⟩ := ih hne hws
      have hrest : joinWords (v :: vs) ≠ [] := joinWords_ne_nil hne (List.cons_ne_nil v vs)
      have hword := singleSpaced_of_word hw
      rw [joinWords_cons_cons]
      constructor
      · intro c hc
        rw [List.head?_append_of_ne_nil _ hwne] at hc
        exact hword.head c hc
      · intro c hc
        rw [List.getLast?_append_of_ne_nil _ (List.cons_ne_nil _ _), List.getLast?_cons_of_ne_nil hrest]
          at hc
        exact hlast c hc
      · intro c hc hblank
        rcases List.mem_append.mp hc with hc | hc
        · exact hword.space c hc hblank
        · rcases List.mem_cons.mp hc with rfl | hc
          · rfl
          · exact hspace c hc hblank
      · refine List.isChain_append.mpr ⟨hword.apart, ?_, fun c hc _ _ => .inl (hword.last c hc)⟩
        exact List.isChain_cons.mpr ⟨fun c hc => .inr (hhead c hc), hapart⟩

theorem splitWhere_congr {q : Char → Bool} (h : ∀ c ∈ cs, p c = q c) :
    splitWhere p cs = splitWhere q cs := by
  induction cs with
  | nil => rfl
  | cons c cs ih =>
    obtain ⟨hc, hcs⟩ := List.forall_mem_cons.mp h
    rw [splitWhere, splitWhere, hc, ih hcs]

theorem tail_splitWhere_cons (hc : p c = false) (cs : List Char) :
    (splitWhere p (c :: cs)).tail = (splitWhere p cs).tail := by
  obtain ⟨v, vs, hsplit, hcons⟩ := exists_splitWhere_prepend cs (List.forall_mem_singleton.mpr hc)
  rw [hsplit, ← List.singleton_append, hcons]
  rfl

/-- The first piece is empty only if a separator begins the text. -/
theorem nil_mem_tail_splitWhere (hc : p c = false) (h : [] ∈ splitWhere p (c :: cs)) :
    [] ∈ (splitWhere p (c :: cs)).tail := by
  obtain ⟨v, vs, -, hcons⟩ := exists_splitWhere_prepend cs (List.forall_mem_singleton.mpr hc)
  rw [← List.singleton_append, hcons] at h ⊢
  rcases List.mem_cons.mp h with h | h
  · exact nomatch h
  · exact h

/-- Where no two separators meet and none ends the text, no piece but the first is empty. -/
theorem nil_notMem_tail_splitWhere (hlast : ∀ c ∈ cs.getLast?, p c = false)
    (hapart : cs.IsChain fun a b => p a = false ∨ p b = false) : [] ∉ (splitWhere p cs).tail := by
  induction cs with
  | nil => exact List.not_mem_nil
  | cons c cs ih =>
    cases cs with
    | nil =>
      rw [splitWhere_eq_singleton (List.forall_mem_singleton.mpr (hlast c rfl))]
      exact List.not_mem_nil
    | cons d ds =>
      obtain ⟨hcd, hapart⟩ := List.isChain_cons_cons.mp hapart
      have htail := ih (fun x hx => hlast x (by rwa [List.getLast?_cons_cons])) hapart
      cases hc : p c with
      | false => rwa [tail_splitWhere_cons hc]
      | true =>
        have hd : p d = false := hcd.resolve_left (ne_false_of_eq_true hc)
        rw [splitWhere, if_pos hc, List.tail_cons]
        exact fun hnil => htail (nil_mem_tail_splitWhere hd hnil)

/-- Text with single spaces is the text of its fields. -/
theorem SingleSpaced.joinWords_fields (h : SingleSpaced cs) : joinWords (fields cs) = cs := by
  obtain ⟨hhead, hlast, hspace, hapart⟩ := h
  cases cs with
  | nil => rfl
  | cons c cs =>
    have hpieces : splitWhere isBlank (c :: cs) = splitWhere (· == ' ') (c :: cs) := by
      refine splitWhere_congr fun d hd => Bool.eq_iff_iff.mpr ⟨fun hblank => ?_, fun heq => ?_⟩
      · exact beq_iff_eq.mpr (hspace d hd hblank)
      · rw [beq_iff_eq.mp heq]
        rfl
    have hfields : fields (c :: cs) = splitWhere isBlank (c :: cs) := by
      refine List.filter_eq_self.mpr fun w hw => ?_
      rw [Bool.not_eq_true', List.isEmpty_eq_false_iff]
      rintro rfl
      exact nil_notMem_tail_splitWhere hlast hapart (nil_mem_tail_splitWhere (hhead c rfl) hw)
    rw [hfields, hpieces, joinWords, intercalate_splitWhere]

theorem SingleSpaced.fields_eq_nil_iff (h : SingleSpaced cs) : fields cs = [] ↔ cs = [] := by
  constructor
  · intro hempty
    rw [← h.joinWords_fields, hempty]
    rfl
  · rintro rfl
    rfl

end Airgap.Text
