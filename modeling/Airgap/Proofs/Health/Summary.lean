import Airgap.Proofs.Health.Sample
import Airgap.Proofs.Text.Split

/-!
# The summary of a report

* `isInfix_of_append`: a word that stands in a text does so on one side of what has none of its letters.
* `Numeric`: texts of numbers, which have no letters of a test's name.
* `Report.splitWhere_summary`: the lines of a summary come back from its text.
* `verdict`, `Report.filter_mentions`: one line mentions a test, and what it says.
-/

namespace Airgap.Health

open Text (splitWhere splitWhere_intercalate)

/-! ## Words in a text -/

section Words

variable {w xs ys : List Char}

theorem isInfix_of_append_cons {c : Char} (hc : c ∉ w) (h : w <:+: xs ++ c :: ys) :
    w <:+: xs ∨ w <:+: ys := by
  induction xs with
  | nil =>
    rcases List.infix_cons_iff.mp h with hprefix | hinfix
    · cases w with
      | nil => exact .inl List.nil_infix
      | cons x w =>
        obtain ⟨rfl, -⟩ := List.cons_prefix_cons.mp hprefix
        exact absurd List.mem_cons_self hc
    · exact .inr hinfix
  | cons x xs ih =>
    rcases List.infix_cons_iff.mp h with hprefix | hinfix
    · rcases List.prefix_or_prefix_of_prefix hprefix (List.prefix_append (x :: xs) (c :: ys)) with
        hshort | ⟨rest, rfl⟩
      · exact .inl hshort.isInfix
      · -- what is left of the word behind the first part would begin with `c`
        have hrest : rest <+: c :: ys :=
          (List.prefix_append_right_inj (x :: xs)).mp
            (show (x :: xs) ++ rest <+: (x :: xs) ++ c :: ys from hprefix)
        cases rest with
        | nil => exact .inl (by rw [List.append_nil])
        | cons d rest =>
          obtain ⟨rfl, -⟩ := List.cons_prefix_cons.mp hrest
          exact absurd (List.mem_append_right _ List.mem_cons_self) hc
    · exact (ih hinfix).imp_left fun hxs => List.infix_cons hxs

/-- A word stands on one side of a part that has none of its letters. -/
theorem isInfix_of_append {mid : List Char} (hw : w ≠ []) (hmid : mid ≠ []) (hfree : ∀ c ∈ mid, c ∉ w)
    (h : w <:+: xs ++ mid ++ ys) : w <:+: xs ∨ w <:+: ys := by
  induction mid generalizing xs with
  | nil => exact absurd rfl hmid
  | cons c mid ih =>
    rw [List.append_assoc, List.cons_append] at h
    obtain ⟨hc, hfree⟩ := List.forall_mem_cons.mp hfree
    rcases isInfix_of_append_cons hc h with hxs | hrest
    · exact .inl hxs
    · by_cases hlast : mid = []
      · subst hlast
        exact .inr hrest
      · have hempty : w <:+: [] ++ mid ++ ys := hrest
        rcases ih hlast hfree hempty with hnil | hys
        · exact absurd (List.infix_nil.mp hnil) hw
        · exact .inr hys

end Words

/-! ## Numbers in a line -/

/-- The text of a number: digits, and perhaps a sign. -/
structure Numeric (t : String) : Prop where
  ne_nil : t.toList ≠ []
  chars : ∀ c ∈ t.toList, c = '-' ∨ c.isDigit = true

theorem numeric_nat (n : ℕ) : Numeric (toString n) := by
  rw [Nat.toString_eq_repr]
  refine ⟨by rw [Nat.toList_repr]; exact Nat.toDigits_ne_nil, fun c hc => .inr ?_⟩
  rw [Nat.toList_repr] at hc
  exact Nat.isDigit_of_mem_toDigits (by decide) (by decide) hc

theorem numeric_int (i : ℤ) : Numeric (toString i) := by
  cases i with
  | ofNat n => exact numeric_nat n
  | negSucc n =>
    have hnat := numeric_nat (n + 1)
    have hsign : (toString (Int.negSucc n)).toList = '-' :: (toString (n + 1)).toList :=
      String.toList_append
    refine ⟨by rw [hsign]; exact List.cons_ne_nil _ _, ?_⟩
    rw [hsign, List.forall_mem_cons]
    exact ⟨.inl rfl, hnat.chars⟩

namespace Numeric

variable {t a b : String} (h : Numeric t)

include h

theorem not_newline : '\n' ∉ t.toList := by
  intro hmem
  exact absurd (h.chars _ hmem) (by decide)

/-- The name of a test has no character of a number. -/
theorem mention_of_around {name : TestName} (hmention : name.text.toList <:+: (a ++ t ++ b).toList) :
    name.text.toList <:+: a.toList ∨ name.text.toList <:+: b.toList := by
  have hletters : name.text.toList.all (fun c => !decide (c = '-' ∨ c.isDigit = true)) = true := by
    cases name <;> decide
  have hname : name.text.toList ≠ [] := by cases name <;> decide
  rw [String.toList_append, String.toList_append] at hmention
  refine isInfix_of_append hname h.ne_nil (fun c hc hmem => ?_) hmention
  have hletter := List.all_eq_true.mp hletters c hmem
  rw [decide_eq_true (h.chars c hc)] at hletter
  exact Bool.false_ne_true hletter

end Numeric

/-! ## The line of a test -/

/-- The line of a test that all samples skip, or that so many of so many samples fail. -/
def verdict (name : TestName) (skipped : Bool) (failures total : ℕ) : String :=
  let title := Report.padded 20 name.text
  if skipped then "  [-] " ++ title ++ " skipped (sample too short)"
  else if total < 2 * failures then
    "  [!] " ++ title ++ " FAIL (" ++ toString failures ++ "/" ++ toString total ++ " samples)"
  else "  [+] " ++ title ++ " PASS"

theorem not_newline_verdict (name : TestName) (skipped : Bool) (failures total : ℕ) :
    '\n' ∉ (verdict name skipped failures total).toList := by
  have htitle : '\n' ∉ (Report.padded 20 name.text).toList := by cases name <;> decide
  have hfailures := (numeric_nat failures).not_newline
  have htotal := (numeric_nat total).not_newline
  unfold verdict
  split
  · simp [htitle]
  · split
    · simp only [String.toList_append, List.mem_append, htitle, hfailures, htotal, or_false]
      decide
    · simp [htitle]

theorem isInfix_verdict (name : TestName) (skipped : Bool) (failures total : ℕ) :
    (Report.padded 20 name.text).toList <:+: (verdict name skipped failures total).toList := by
  unfold verdict
  split
  · simp only [String.toList_append]
    exact List.infix_append _ _ _
  · split
    · simp only [String.toList_append, List.append_assoc]
      exact (List.prefix_append _ _).isInfix.trans (List.suffix_append _ _).isInfix
    · simp only [String.toList_append]
      exact List.infix_append _ _ _

/-- A line mentions the test that it is about, and no other. -/
theorem mention_verdict_iff {name name' : TestName} (skipped : Bool) (failures total : ℕ) :
    name.text.toList <:+: (verdict name' skipped failures total).toList ↔ name = name' := by
  constructor
  · intro h
    unfold verdict at h
    split at h
    · revert h
      cases name <;> cases name' <;> decide
    · split at h
      · -- the parts around the counts
        rcases (numeric_nat total).mention_of_around h with h | h
        · rcases (numeric_nat failures).mention_of_around h with h | h
          · revert h
            cases name <;> cases name' <;> decide
          · exact absurd h (by cases name <;> decide)
        · exact absurd h (by cases name <;> decide)
      · revert h
        cases name <;> cases name' <;> decide
  · rintro rfl
    have htitle : name.text.toList <:+: (Report.padded 20 name.text).toList := by
      cases name <;> decide
    exact htitle.trans (isInfix_verdict name skipped failures total)

/-! ## The lines of a summary -/

namespace Report

variable {R : Type} [Reckoning R] (r : Report R)

theorem line_eq_verdict (name : TestName) :
    r.line name = verdict name (decide (name ∈ r.skipped)) (r.failures name) r.samples.length := by
  unfold line verdict
  simp only [decide_eq_true_eq, mem_failed_iff]
  rfl

/-- The lines above the tests. -/
def preamble : List String :=
  ["Randomness verification: " ++ (if r.passes then "PASS" else "FAIL"),
    "Samples: " ++ toString r.samples.length ++ ", " ++ toString r.sampleBits ++ " bits each", ""]

/-- The lines under the tests. -/
def warning : List String :=
  if r.passes then []
  else ["", "WARNING: Weak randomness detected. Do NOT use for seed generation."]

theorem summaryLines_eq : r.summaryLines = r.preamble ++ TestName.all.map r.line ++ r.warning := rfl

/-- No line of a summary is broken. -/
theorem not_newline_of_mem_summaryLines {l : String} (hl : l ∈ r.summaryLines) : '\n' ∉ l.toList := by
  have hsamples := (numeric_nat r.samples.length).not_newline
  have hbits := (numeric_int r.sampleBits).not_newline
  rw [summaryLines_eq, List.mem_append, List.mem_append] at hl
  rcases hl with (hhead | hline) | htail
  · simp only [preamble, List.mem_cons, List.not_mem_nil, or_false] at hhead
    rcases hhead with rfl | rfl | rfl
    · split <;> decide
    · simp only [String.toList_append, List.mem_append, hsamples, hbits, or_false]
      decide
    · decide
  · obtain ⟨name, -, rfl⟩ := List.mem_map.mp hline
    rw [line_eq_verdict]
    exact not_newline_verdict name _ _ _
  · unfold warning at htail
    split at htail
    · exact nomatch htail
    · revert l
      decide

/-- The lines of a summary come back from its text. -/
theorem splitWhere_summary :
    splitWhere (· == '\n') r.summary.toList = r.summaryLines.map String.toList := by
  rw [summary, String.toList_intercalate]
  refine splitWhere_intercalate rfl (List.cons_ne_nil _ _) fun w hw c hc => ?_
  obtain ⟨l, hl, rfl⟩ := List.mem_map.mp hw
  refine beq_false_of_ne ?_
  rintro rfl
  exact r.not_newline_of_mem_summaryLines hl hc

theorem not_mention_of_mem_preamble (name : TestName) {l : String} (hl : l ∈ r.preamble) :
    ¬ name.text.toList <:+: l.toList := by
  simp only [preamble, List.mem_cons, List.not_mem_nil, or_false] at hl
  rcases hl with rfl | rfl | rfl
  · split <;> cases name <;> decide
  · intro h
    -- the parts around the counts
    rcases (numeric_int r.sampleBits).mention_of_around h with h | h
    · rcases (numeric_nat r.samples.length).mention_of_around h with h | h
      · exact absurd h (by cases name <;> decide)
      · exact absurd h (by cases name <;> decide)
    · exact absurd h (by cases name <;> decide)
  · cases name <;> decide

theorem not_mention_of_mem_warning (name : TestName) {l : String} (hl : l ∈ r.warning) :
    ¬ name.text.toList <:+: l.toList := by
  unfold warning at hl
  split at hl
  · exact nomatch hl
  · simp only [List.mem_cons, List.not_mem_nil, or_false] at hl
    rcases hl with rfl | rfl
    · cases name <;> decide
    · cases name <;> decide +kernel

/-- One line mentions a test, the line of the test. -/
theorem filter_mentions (name : TestName) :
    (splitWhere (· == '\n') r.summary.toList).filter (fun l => name.text.toList <:+: l) =
      [(r.line name).toList] := by
  have hpreamble : r.preamble.filter (fun l => name.text.toList <:+: l.toList) = [] :=
    List.filter_eq_nil_iff.mpr fun l hl => by
      simpa using r.not_mention_of_mem_preamble name hl
  have hwarning : r.warning.filter (fun l => name.text.toList <:+: l.toList) = [] :=
    List.filter_eq_nil_iff.mpr fun l hl => by
      simpa using r.not_mention_of_mem_warning name hl
  have hline (name' : TestName) : name.text.toList <:+: (r.line name').toList ↔ name = name' := by
    rw [line_eq_verdict]
    exact mention_verdict_iff ..
  have htests : (TestName.all.map r.line).filter (fun l => name.text.toList <:+: l.toList) =
      [r.line name] := by
    rw [List.filter_map]
    simp only [Function.comp_def, hline]
    cases name <;> rfl
  calc (splitWhere (· == '\n') r.summary.toList).filter (fun l => name.text.toList <:+: l)
      = (r.summaryLines.filter fun l => name.text.toList <:+: l.toList).map String.toList := by
        rw [splitWhere_summary, List.filter_map]
        rfl
    _ = [(r.line name).toList] := by
        rw [summaryLines_eq, List.filter_append, List.filter_append, hpreamble, htests, hwarning]
        rfl

end Report

end Airgap.Health
