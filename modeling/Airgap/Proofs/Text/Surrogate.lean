import Airgap.Text.Surrogate
import Mathlib.Data.List.Basic
import Mathlib.Data.List.TakeWhile

/-!
# What becomes of surrogates

* `mapRuns_ofChars`, `strip_ofChars`, `fields_ofChars`: texts without surrogates are treated as their
  characters.
* `surrogate_mem_mapRuns`, `surrogate_mem_strip`, `surrogate_mem_joinWords_fields`: surrogates stay.
* `encode_eq_ok_iff`: the texts that have a UTF-8 encoding are those without surrogates.
-/

namespace Airgap

namespace Text

variable {α β : Type} {p : α → Bool}

theorem splitWhere_map (f : β → α) (l : List β) :
    splitWhere p (l.map f) = (splitWhere (fun b => p (f b)) l).map (List.map f) := by
  induction l with
  | nil => rfl
  | cons b l ih =>
    rw [List.map_cons, splitWhere, splitWhere, ih]
    cases p (f b) with
    | true => rfl
    | false => cases splitWhere (fun b => p (f b)) l <;> rfl

/-- The pieces hold all that is no separator. -/
theorem exists_mem_splitWhere_iff {a : α} {l : List α} :
    (∃ w ∈ splitWhere p l, a ∈ w) ↔ a ∈ l ∧ p a = false := by
  induction l with
  | nil => simp [splitWhere]
  | cons b l ih =>
    rw [splitWhere]
    cases hb : p b with
    | true =>
      simp only [if_true, List.mem_cons, exists_eq_or_imp, List.not_mem_nil, false_or, ih]
      have hne (ha : p a = false) : a ≠ b := by
        rintro rfl
        exact Bool.false_ne_true (ha.symm.trans hb)
      exact ⟨fun h => ⟨.inr h.1, h.2⟩, fun h => ⟨h.1.resolve_left (hne h.2), h.2⟩⟩
    | false =>
      cases hsplit : splitWhere p l with
      | nil => exact absurd hsplit (splitWhere_ne_nil p l)
      | cons w ws =>
        rw [hsplit] at ih
        simp only [List.mem_cons, exists_eq_or_imp, Bool.false_eq_true, if_false] at ih ⊢
        rw [or_assoc, ih]
        constructor
        · rintro (rfl | h)
          · exact ⟨.inl rfl, hb⟩
          · exact ⟨.inr h.1, h.2⟩
        · rintro ⟨rfl | h, ha⟩
          · exact .inl rfl
          · exact .inr ⟨h, ha⟩

/-- What does not satisfy a property is not dropped for it. -/
theorem mem_dropWhile_of_not {a : α} (ha : p a = false) (l : List α) : a ∈ l.dropWhile p ↔ a ∈ l := by
  have htaken : a ∉ l.takeWhile p := fun h =>
    Bool.false_ne_true (ha.symm.trans (List.mem_takeWhile_imp h))
  calc a ∈ l.dropWhile p ↔ a ∈ l.takeWhile p ++ l.dropWhile p := by
        rw [List.mem_append, or_iff_right htaken]
    _ ↔ a ∈ l := by rw [List.takeWhile_append_dropWhile]

end Text

namespace RawText

variable {f : List Char → List Char} {s : Fin 0x800} {t : RawText}

/-! ## Texts without surrogates -/

theorem ofChars_injective : Function.Injective ofChars :=
  List.map_injective_iff.mpr fun _ _ h => CodePoint.char.inj h

theorem mapRunsFrom_ofChars (f : List Char → List Char) (run cs : List Char) :
    mapRunsFrom f run (ofChars cs) = ofChars (f (run ++ cs)) := by
  induction cs generalizing run with
  | nil => rw [List.append_nil]; rfl
  | cons c cs ih =>
    have h := ih (run ++ [c])
    rwa [List.append_assoc, List.singleton_append] at h

theorem mapRuns_ofChars (f : List Char → List Char) (cs : List Char) :
    mapRuns f (ofChars cs) = ofChars (f cs) := mapRunsFrom_ofChars f [] cs

theorem strip_ofChars (cs : List Char) : strip (ofChars cs) = ofChars (Text.strip cs) := by
  simp only [strip, ofChars, Text.strip, List.dropWhile_map, ← List.map_reverse]
  rfl

theorem joinWords_map_ofChars (ws : List (List Char)) :
    joinWords (ws.map ofChars) = ofChars (Text.joinWords ws) := by
  induction ws with
  | nil => rfl
  | cons w ws ih =>
    cases ws with
    | nil => rw [joinWords, Text.joinWords, List.map_singleton, List.intercalate_singleton,
        List.intercalate_singleton]
    | cons v ws =>
      rw [joinWords, List.map_cons, Text.joinWords] at ih
      rw [joinWords, Text.joinWords, List.map_cons, List.map_cons, List.intercalate_cons_cons,
        List.intercalate_cons_cons, ih, ofChars, ofChars, ofChars, List.map_append, List.map_append]
      rfl

theorem fields_ofChars (cs : List Char) : fields (ofChars cs) = (Text.fields cs).map ofChars := by
  have hempty : ((fun t : RawText => !t.isEmpty) ∘ List.map .char) =
      fun cs : List Char => !cs.isEmpty := by
    funext cs
    cases cs <;> rfl
  rw [fields, ofChars, Text.splitWhere_map, Text.fields, List.filter_map, hempty]
  rfl

/-! ## Surrogates stay -/

theorem surrogate_not_mem_ofChars (s : Fin 0x800) (cs : List Char) : .surrogate s ∉ ofChars cs := by
  rw [ofChars, List.mem_map]
  rintro ⟨c, -, h⟩
  exact nomatch h

theorem surrogate_mem_mapRunsFrom (run : List Char) :
    .surrogate s ∈ mapRunsFrom f run t ↔ .surrogate s ∈ t := by
  induction t generalizing run with
  | nil => exact iff_of_false (surrogate_not_mem_ofChars s _) List.not_mem_nil
  | cons c t ih =>
    cases c with
    | char c => rw [mapRunsFrom, ih, List.mem_cons, or_iff_right nofun]
    | surrogate r =>
      rw [mapRunsFrom, List.mem_append, or_iff_right (surrogate_not_mem_ofChars s _), List.mem_cons,
        ih, List.mem_cons]

theorem surrogate_mem_mapRuns : .surrogate s ∈ mapRuns f t ↔ .surrogate s ∈ t :=
  surrogate_mem_mapRunsFrom []

theorem surrogate_mem_strip : .surrogate s ∈ strip t ↔ .surrogate s ∈ t := by
  rw [strip, List.mem_reverse, Text.mem_dropWhile_of_not rfl, List.mem_reverse,
    Text.mem_dropWhile_of_not rfl]

theorem surrogate_mem_joinWords {ws : List RawText} :
    .surrogate s ∈ joinWords ws ↔ ∃ w ∈ ws, .surrogate s ∈ w := by
  induction ws with
  | nil => simp [joinWords]
  | cons w ws ih =>
    cases ws with
    | nil => simp [joinWords]
    | cons v ws =>
      rw [joinWords] at ih ⊢
      rw [List.intercalate_cons_cons, List.mem_append, List.mem_append, ih, List.mem_singleton,
        or_iff_left (a := _ ∈ w) nofun, List.exists_mem_cons_iff _ w]

theorem surrogate_mem_joinWords_fields : .surrogate s ∈ joinWords (fields t) ↔ .surrogate s ∈ t := by
  have hpieces := Text.exists_mem_splitWhere_iff (p := CodePoint.isBlank) (a := .surrogate s) (l := t)
  rw [surrogate_mem_joinWords, fields]
  simp only [List.mem_filter]
  constructor
  · rintro ⟨w, ⟨hw, -⟩, hs⟩
    exact (hpieces.mp ⟨w, hw, hs⟩).1
  · intro hs
    obtain ⟨w, hw, hs⟩ := hpieces.mpr ⟨hs, rfl⟩
    refine ⟨w, ⟨hw, ?_⟩, hs⟩
    cases w with
    | nil => exact absurd hs List.not_mem_nil
    | cons c w => rfl

/-! ## The UTF-8 encoding -/

theorem chars_ofChars (cs : List Char) : chars (ofChars cs) = cs := by
  rw [chars, ofChars, List.filterMap_map]
  exact List.filterMap_some

/-- A text without surrogates is that of its characters. -/
theorem eq_ofChars (h : ∀ s, .surrogate s ∉ t) : t = ofChars t.chars := by
  induction t with
  | nil => rfl
  | cons c t ih =>
    cases c with
    | char c => exact congrArg (.char c :: ·) (ih fun s hs => h s (List.mem_cons_of_mem _ hs))
    | surrogate r => exact absurd List.mem_cons_self (h r)

theorem encode_ofChars (cs : List Char) :
    (ofChars cs).encode = .ok (Bytes.ofText (String.ofList cs)) := by
  have hnone : (ofChars cs).dropWhile (!·.isSurrogate) = [] := by
    rw [List.dropWhile_eq_nil_iff]
    intro c hc
    obtain ⟨d, -, rfl⟩ := List.mem_map.mp hc
    rfl
  simp only [encode, hnone, chars_ofChars]
  rfl

/-- The first surrogate of a text is in the way of its encoding. -/
theorem exists_encode_eq_error (h : .surrogate s ∈ t) : ∃ fault, t.encode = .error fault := by
  have hrest : ∃ r rest, t.dropWhile (!·.isSurrogate) = .surrogate r :: rest := by
    cases hdrop : t.dropWhile (!·.isSurrogate) with
    | nil =>
      exact nomatch List.dropWhile_eq_nil_iff.mp hdrop _ h
    | cons c rest =>
      have hc := List.head?_dropWhile_not (!·.isSurrogate) t
      rw [hdrop] at hc
      cases c with
      | char c => exact nomatch hc
      | surrogate r => exact ⟨r, rest, rfl⟩
  obtain ⟨r, rest, hrest⟩ := hrest
  have hrun : surrogates ((t.dropWhile (!·.isSurrogate)).takeWhile (·.isSurrogate)) =
      r :: surrogates (rest.takeWhile (·.isSurrogate)) := by
    rw [hrest]
    rfl
  simp only [encode, hrun]
  cases surrogates (rest.takeWhile (·.isSurrogate)) with
  | nil => exact ⟨_, rfl⟩
  | cons r' run => exact ⟨_, rfl⟩

/-- **The texts that have a UTF-8 encoding** are those without surrogates. -/
theorem encode_eq_ok_iff : (∃ bs, t.encode = .ok bs) ↔ ∀ s, .surrogate s ∉ t := by
  constructor
  · rintro ⟨bs, hbs⟩ s hs
    obtain ⟨fault, hfault⟩ := exists_encode_eq_error hs
    exact nomatch hbs.symm.trans hfault
  · intro h
    rw [eq_ofChars h]
    exact ⟨_, encode_ofChars _⟩

end RawText

end Airgap
