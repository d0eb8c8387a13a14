import Airgap.Proofs.Session.Rolls
import Airgap.Proofs.Text.Digit
import Mathlib.Data.List.TakeWhile

/-!
# Lines that are no rolls

* `Numeral`, `IsRoll`: the numeral of a number, and of a roll, said without the reader.
* `Unreadable`: digits that are no numeral. By `exists_readRoll_error_iff` nothing else cannot be read.
* `Ignores`: a line changes nothing and is at most reported; `ignores_iff` is when.
* `converse_filter_iff`: a conversation and its rolls alone.
-/

namespace Airgap.Session

open Entropy (Collector Outcome Source)
open Entropy.Collector (Fed)
open KeyTree.Path (longestNumeral)
open Text (decimalValue? exists_decimalValue?_of_mem isDigit isDigit_of_decimalValue? readDecimal?
  readDecimal?_eq_none_iff readDecimal?_eq_some_iff strip)

/-! ## Numerals -/

/-- A line is the numeral of a number: between blanks, one or more decimal digits of any script, not more
of them than are read. -/
def Numeral (line : String) (n : ℕ) : Prop :=
  strip line.toList ≠ [] ∧ (strip line.toList).length ≤ longestNumeral ∧
    ∃ digits : List ℕ, (strip line.toList).map decimalValue? = digits.map some ∧
      n = Nat.ofDigits 10 digits.reverse

/-- A line is a roll of the die. -/
def IsRoll (line : String) : Prop := ∃ n, 1 ≤ n ∧ n ≤ 6 ∧ Numeral line n

/-- A line is made of digits, but one of them is not decimal or there are more than are read. -/
def Unreadable (line : String) : Prop :=
  (∀ c ∈ strip line.toList, isDigit c = true) ∧
    ((∃ c ∈ strip line.toList, decimalValue? c = none) ∨ longestNumeral < (strip line.toList).length)

section Numerals

variable {cs : List Char} {n : ℕ}

/-- A number is read from decimal digits that are not too many. -/
theorem readNumeral_eq_ok_iff :
    readNumeral cs = .ok n ↔ readDecimal? cs = some n ∧ cs.length ≤ longestNumeral := by
  have hfront (hn : readDecimal? cs = some n) : cs.takeWhile (decimalValue? · |>.isSome) = cs := by
    rw [List.takeWhile_eq_self_iff]
    intro c hc
    rw [Option.isSome_iff_ne_none]
    intro hnone
    rw [readDecimal?_eq_none_iff.mpr ⟨c, hc, hnone⟩] at hn
    exact nomatch hn
  rw [readNumeral]
  constructor
  · intro h
    split at h
    · exact nomatch h
    · rename_i hshort
      split at h
      · rename_i m hm
        obtain rfl := Except.ok.inj h
        rw [hfront hm] at hshort
        exact ⟨hm, Nat.not_lt.mp hshort⟩
      · exact nomatch h
  · rintro ⟨hn, hshort⟩
    simp only [hfront hn, hn, Nat.not_lt.mpr hshort, if_false]

theorem kind_of_readNumeral_eq_error {e : Error} (h : readNumeral cs = .error e) : e.kind = .value := by
  rw [readNumeral] at h
  split at h
  · obtain rfl := Except.error.inj h
    rfl
  · split at h
    · exact nomatch h
    · obtain rfl := Except.error.inj h
      rfl

end Numerals

/-! ## One line -/

section Line

variable {line : String} {n : ℕ}

theorem numeral_iff : Numeral line n ↔
    strip line.toList ≠ [] ∧ readNumeral (strip line.toList) = .ok n := by
  rw [Numeral, readNumeral_eq_ok_iff, readDecimal?_eq_some_iff,
    and_comm (a := (strip line.toList).length ≤ longestNumeral)]

theorem isDigit_of_numeral (h : Numeral line n) : (strip line.toList).all isDigit = true := by
  obtain ⟨-, -, digits, hdigits, -⟩ := h
  rw [List.all_eq_true]
  intro c hc
  obtain ⟨d, hd⟩ := exists_decimalValue?_of_mem hdigits hc
  exact isDigit_of_decimalValue? hd

/-- How a line is read. -/
theorem readRoll_cases (line : String) :
    (strip line.toList = [] ∧ readRoll line = .ok none) ∨
    (¬ (strip line.toList).all isDigit = true ∧ readRoll line = .ok (some .other)) ∨
    (strip line.toList ≠ [] ∧ (strip line.toList).all isDigit = true ∧
      readRoll line = (readNumeral (strip line.toList)).map fun n => some (.integer n)) := by
  rw [readRoll]
  cases hcs : strip line.toList with
  | nil => exact .inl ⟨rfl, rfl⟩
  | cons c cs =>
    refine .inr ?_
    by_cases hdigits : (c :: cs).all isDigit = true
    · refine .inr ⟨List.cons_ne_nil c cs, hdigits, ?_⟩
      simp only [List.isEmpty_cons, Bool.false_eq_true, if_false, hdigits, if_true]
      cases readNumeral (c :: cs) <;> rfl
    · refine .inl ⟨hdigits, ?_⟩
      simp only [List.isEmpty_cons, Bool.false_eq_true, if_false, hdigits]

/-- A number is read from its numerals. -/
theorem readRoll_eq_integer_iff {m : ℤ} :
    readRoll line = .ok (some (.integer m)) ↔ ∃ n : ℕ, Numeral line n ∧ m = n := by
  simp only [numeral_iff]
  constructor
  · intro h
    rcases readRoll_cases line with ⟨-, hread⟩ | ⟨-, hread⟩ | ⟨hne, -, hread⟩
    · exact nomatch hread.symm.trans h
    · exact nomatch hread.symm.trans h
    · rw [hread] at h
      cases hn : readNumeral (strip line.toList) with
      | error e =>
        rw [hn] at h
        exact nomatch h
      | ok n =>
        rw [hn] at h
        obtain rfl := Outcome.integer.inj (Option.some.inj (Except.ok.inj h))
        exact ⟨n, ⟨hne, rfl⟩, rfl⟩
  · rintro ⟨n, hn, rfl⟩
    rcases readRoll_cases line with ⟨hnil, -⟩ | ⟨hdigits, -⟩ | ⟨-, -, hread⟩
    · exact absurd hnil hn.1
    · exact absurd (isDigit_of_numeral (numeral_iff.mpr hn)) hdigits
    · rw [hread, hn.2]
      rfl

/-- The lines of rolls are those that rolls are read from. -/
theorem isRoll_iff : IsRoll line ↔ ∃ m, rollOf? line = some m := by
  constructor
  · rintro ⟨n, hlow, hhigh, hn⟩
    have hgives : Source.d6.Gives n := ⟨Int.ofNat_le.mpr hlow, Int.ofNat_le.mpr hhigh⟩
    refine ⟨n, ?_⟩
    rw [rollOf?, readRoll_eq_integer_iff.mpr ⟨n, hn, rfl⟩]
    exact if_pos hgives
  · rintro ⟨m, hm⟩
    obtain ⟨hread, hlow, hhigh⟩ := rollOf?_eq_some hm
    obtain ⟨n, hn, rfl⟩ := readRoll_eq_integer_iff.mp hread
    exact ⟨n, Int.ofNat_le.mp hlow, Int.ofNat_le.mp hhigh, hn⟩

instance : DecidablePred IsRoll := fun line =>
  decidable_of_iff ((rollOf? line).isSome = true) (by rw [isRoll_iff, Option.isSome_iff_exists])

/-- **What cannot be read** are the unreadable lines. -/
theorem exists_readRoll_error_iff : (∃ e, readRoll line = .error e) ↔ Unreadable line := by
  rw [Unreadable, ← List.all_eq_true]
  rcases readRoll_cases line with ⟨hnil, hread⟩ | ⟨hdigits, hread⟩ | ⟨hne, hdigits, hread⟩
  · rw [hread, hnil]
    simp
  · rw [hread]
    simp [hdigits]
  · have hok (n : ℕ) : readNumeral (strip line.toList) = .ok n ↔
        readDecimal? (strip line.toList) = some n ∧ (strip line.toList).length ≤ longestNumeral :=
      readNumeral_eq_ok_iff
    rw [hread, ← readDecimal?_eq_none_iff, and_iff_right hdigits]
    cases hn : readNumeral (strip line.toList) with
    | error e =>
      refine iff_of_true ⟨e, rfl⟩ ?_
      by_contra hfine
      rw [not_or, Nat.not_lt] at hfine
      obtain ⟨n, hsome⟩ := Option.ne_none_iff_exists'.mp hfine.1
      exact nomatch hn.symm.trans ((hok n).mpr ⟨hsome, hfine.2⟩)
    | ok n =>
      obtain ⟨hsome, hshort⟩ := (hok n).mp hn
      refine iff_of_false (fun ⟨e, he⟩ => nomatch he) ?_
      rw [hsome, not_or, Nat.not_lt]
      exact ⟨Option.some_ne_none n, hshort⟩

instance : DecidablePred Unreadable := fun line =>
  decidable_of_iff ((readRoll line).isOk = false) (by
    rw [← exists_readRoll_error_iff]
    cases readRoll line with
    | error e => exact iff_of_true rfl ⟨e, rfl⟩
    | ok roll => exact iff_of_false Bool.noConfusion fun ⟨e, he⟩ => nomatch he)

theorem kind_of_readRoll_eq_error {e : Error} (h : readRoll line = .error e) : e.kind = .value := by
  rcases readRoll_cases line with ⟨-, hread⟩ | ⟨-, hread⟩ | ⟨-, -, hread⟩
  · exact nomatch hread.symm.trans h
  · exact nomatch hread.symm.trans h
  · rw [hread] at h
    cases hn : readNumeral (strip line.toList) with
    | error e' =>
      rw [hn] at h
      obtain rfl := Except.error.inj h
      exact kind_of_readNumeral_eq_error hn
    | ok n =>
      rw [hn] at h
      exact nomatch h

theorem IsRoll.not_unreadable (h : IsRoll line) : ¬ Unreadable line := by
  rw [← exists_readRoll_error_iff]
  rintro ⟨e, he⟩
  obtain ⟨m, hm⟩ := isRoll_iff.mp h
  exact nomatch he.symm.trans (rollOf?_eq_some hm).1

end Line

/-! ## Conversations -/

/-- A line is at most reported, as a parameter at fault: the rest of the conversation, and where it leads
to, are those without the line. -/
def Ignores (c : Collector) (line : String) : Prop :=
  ∃ report, (report = "" ∨ ∃ e : Error, e.kind = .parameter ∧ report = "  " ++ e.message ++ "\n") ∧
    ∀ rest, converse c (line :: rest) =
      ((converse c rest).1, prompt ++ report ++ (converse c rest).2)

section Conversation

variable {fresh c : Collector} {line : String} {lines : List String} {vs : List ℕ}

theorem converse_of_unreadable (h : Unreadable line) :
    ∃ e, e.kind = .value ∧ ∀ rest, converse c (line :: rest) = (.error e, prompt) := by
  obtain ⟨e, he⟩ := exists_readRoll_error_iff.mpr h
  exact ⟨e, kind_of_readRoll_eq_error he, fun rest => by rw [converse, he]⟩

/-- **In an open session** a line that is no roll is ignored, unless it cannot be read. -/
theorem ignores_iff (hsource : c.source = .d6) (hc : c.finalized = false) (hline : ¬ IsRoll line) :
    Ignores c line ↔ ¬ Unreadable line := by
  constructor
  · rintro ⟨report, -, hsame⟩ hunreadable
    -- with the line the conversation fails on a value, without it the input is at its end
    obtain ⟨e, hkind, hconverse⟩ := converse_of_unreadable (c := c) hunreadable
    have hend := congrArg Prod.fst (hsame [])
    rw [hconverse] at hend
    obtain rfl := Except.error.inj hend
    exact nomatch hkind
  · intro hreadable
    cases hread : readRoll line with
    | error e => exact absurd (exists_readRoll_error_iff.mp ⟨e, hread⟩) hreadable
    | ok roll =>
      cases roll with
      | none =>
        refine ⟨"", .inl rfl, fun rest => ?_⟩
        rw [converse, hread, String.append_empty]
      | some roll =>
        have hnone : rollOf? line = none :=
          Option.eq_none_iff_forall_ne_some.mpr fun m hm => hline (isRoll_iff.mpr ⟨m, hm⟩)
        obtain ⟨e, he⟩ := value_of_rollOf?_eq_none hread hnone
        refine ⟨_, .inr ⟨e, (Source.value_eq_error he).1, rfl⟩, fun rest => ?_⟩
        simp only [converse, hread, hear_of_refused hsource hc he, hc, Bool.false_eq_true, if_false]

/-- A roll is taken in, and ends the session or not. -/
theorem converse_of_isRoll (h : Fed fresh c vs) (hsource : fresh.source = .d6)
    (hc : c.finalized = false) (hline : IsRoll line) :
    ∃ next vs', Fed fresh next vs' ∧ ∀ rest, (converse c (line :: rest)).1 =
      if next.finalized then .ok next else (converse next rest).1 := by
  obtain ⟨m, hm⟩ := isRoll_iff.mp hline
  obtain ⟨hread, hgives⟩ := rollOf?_eq_some hm
  refine ⟨_, _, hear_roll h hsource hc hgives, fun rest => ?_⟩
  rw [converse, hread]
  dsimp only
  split <;> rfl

/-- With rolls only, a conversation ends with the session or with the input. -/
theorem converse_rolls (h : Fed fresh c vs) (hsource : fresh.source = .d6) (hc : c.finalized = false)
    (hlines : ∀ line ∈ lines, IsRoll line) :
    (∃ next, (converse c lines).1 = .ok next) ∨ (converse c lines).1 = .error .endOfInput := by
  induction lines generalizing c vs with
  | nil => exact .inr rfl
  | cons line lines ih =>
    obtain ⟨next, vs', hfed, hconverse⟩ :=
      converse_of_isRoll h hsource hc (hlines line List.mem_cons_self)
    rw [hconverse]
    rcases Bool.eq_false_or_eq_true next.finalized with hend | hend
    · exact .inl ⟨next, if_pos hend⟩
    · rw [if_neg (Bool.eq_false_iff.mp hend)]
      exact ih hfed hend fun line hline => hlines line (List.mem_cons_of_mem _ hline)

/-- The rolls before each line that cannot be read end the session. -/
def EndsBeforeUnreadable (c : Collector) (lines : List String) : Prop :=
  ∀ before line after, lines = before ++ line :: after → Unreadable line →
    ∃ next, (converse c (before.filter (IsRoll ·))).1 = .ok next

theorem endsBeforeUnreadable_cons : EndsBeforeUnreadable c (line :: lines) ↔
    (Unreadable line → ∃ next, (converse c []).1 = .ok next) ∧
      ∀ before line' after, lines = before ++ line' :: after → Unreadable line' →
        ∃ next, (converse c ((line :: before).filter (IsRoll ·))).1 = .ok next := by
  constructor
  · intro h
    exact ⟨h [] line lines rfl, fun before line' after hlines =>
      h (line :: before) line' after (congrArg (line :: ·) hlines)⟩
  · rintro ⟨hfirst, hrest⟩ before line' after hlines
    cases before with
    | nil =>
      obtain ⟨rfl, rfl⟩ := List.cons.inj hlines
      exact hfirst
    | cons line'' before =>
      obtain ⟨rfl, htail⟩ := List.cons.inj hlines
      exact hrest before line' after htail

theorem converse_filter (h : Fed fresh c vs) (hsource : fresh.source = .d6) (hc : c.finalized = false) :
    (converse c lines).1 = (converse c (lines.filter (IsRoll ·))).1 ↔ EndsBeforeUnreadable c lines := by
  induction lines generalizing c vs with
  | nil => exact iff_of_true rfl fun before line after hlines => by simp at hlines
  | cons line lines ih =>
    rw [endsBeforeUnreadable_cons]
    by_cases hroll : IsRoll line
    · obtain ⟨next, vs', hfed, hconverse⟩ := converse_of_isRoll h hsource hc hroll
      have hkeep : ∀ lines : List String,
          (line :: lines).filter (IsRoll ·) = line :: lines.filter (IsRoll ·) :=
        fun lines => List.filter_cons_of_pos (by simpa using hroll)
      simp only [hkeep, hconverse, hroll.not_unreadable, false_imp_iff, true_and]
      rcases Bool.eq_false_or_eq_true next.finalized with hend | hend
      · simp only [hend, if_true]
        exact iff_of_true trivial fun _ _ _ _ _ => ⟨next, rfl⟩
      · simp only [hend, Bool.false_eq_true, if_false]
        exact ih hfed hend
    · have hskip : ∀ lines : List String, (line :: lines).filter (IsRoll ·) = lines.filter (IsRoll ·) :=
        fun lines => List.filter_cons_of_neg (by simpa using hroll)
      simp only [hskip]
      by_cases hunreadable : Unreadable line
      · -- rolls alone do not fail on a value
        obtain ⟨e, hkind, hconverse⟩ := converse_of_unreadable (c := c) hunreadable
        refine iff_of_false (fun hsame => ?_) fun hends => ?_
        · have hrolls : ∀ line ∈ lines.filter (IsRoll ·), IsRoll line := fun line hline => by
            simpa using List.of_mem_filter hline
          rw [hconverse] at hsame
          rcases converse_rolls h hsource hc hrolls with ⟨next, hok⟩ | hinput
          · exact nomatch hsame.trans hok
          · obtain rfl := Except.error.inj (hsame.trans hinput)
            exact nomatch hkind
        · obtain ⟨next, hnext⟩ := hends.1 hunreadable
          exact nomatch hnext
      · obtain ⟨report, -, hsame⟩ := (ignores_iff (h.source_eq.trans hsource) hc hroll).mpr hunreadable
        rw [hsame, ih h hc]
        simp only [hunreadable, false_imp_iff, true_and]
        exact Iff.rfl

end Conversation

/-- **What is typed beside the rolls.** A line that is no roll is at most reported by an open session,
and changes nothing, unless it cannot be read. Such a line ends the conversation, with a failure that is
not reported; so the conversation leads to the same session as its rolls alone, with the same bits and
the same counts, just if it is at its end before each such line. -/
theorem converse_filter_iff {target : ℤ} {fresh : Collector}
    (hfresh : Collector.create .d6 target none = .ok fresh) (lines : List String) :
    (∀ (c : Collector) (line : String), c.source = .d6 → c.finalized = false → ¬ IsRoll line →
      (Ignores c line ↔ ¬ Unreadable line)) ∧
    (∀ (c : Collector) (line : String), Unreadable line →
      ∃ e, e.kind = .value ∧ ∀ rest, converse c (line :: rest) = (.error e, prompt)) ∧
    ((converse fresh lines).1 = (converse fresh (lines.filter (IsRoll ·))).1 ↔
      EndsBeforeUnreadable fresh lines) := by
  obtain ⟨hpos, -, hsource, hreset⟩ := Collector.create_eq_ok hfresh
  refine ⟨fun c line hc hopen hline => ignores_iff hc hopen hline,
    fun c line hline => converse_of_unreadable hline, ?_⟩
  have hopen : fresh.finalized = false := by
    rw [← hreset]
    rfl
  exact converse_filter (Fed.start hreset hpos) hsource hopen

/-- Blanks, a word, a sign and a seven between two rolls. -/
theorem converse_filter_iff_mistyped :
    let fresh : Collector := ⟨.d6, 4, false, .empty, none, false, 0, 0, false⟩
    let lines := ["1", " ", "two", "-2", "7", "2"]
    Collector.create .d6 4 none = .ok fresh ∧ lines.filter (IsRoll ·) = ["1", "2"] ∧
      (converse fresh lines).1 = (converse fresh ["1", "2"]).1 := by
  intro fresh lines
  have hfresh : Collector.create .d6 4 none = .ok fresh := rfl
  have hrolls : lines.filter (IsRoll ·) = ["1", "2"] := by decide
  have hreadable : ∀ line ∈ lines, ¬ Unreadable line := by decide
  refine ⟨hfresh, hrolls, ?_⟩
  rw [← hrolls]
  refine (converse_filter_iff hfresh lines).2.2.mpr fun before line after hlines hline => ?_
  exact absurd hline (hreadable line (by simp [hlines]))

/-- A superscript two is a digit that is no roll, and with it all rolls are lost. -/
theorem unreadable_ends_conversation :
    let fresh : Collector := ⟨.d6, 128, false, .empty, none, false, 0, 0, false⟩
    let lines := List.replicate 63 "1" ++ ["²", "1"]
    Collector.create .d6 128 none = .ok fresh ∧ ¬ IsRoll "²" ∧
      (∃ next, (converse fresh (lines.filter (IsRoll ·))).1 = .ok next) ∧
      (converse fresh lines).1 = .error (.notNumeral "²") ∧
      (converse fresh lines).1 ≠ (converse fresh (lines.filter (IsRoll ·))).1 := by
  intro fresh lines
  have hrolls : lines.filter (IsRoll ·) = List.replicate 64 "1" := by decide +kernel
  have hlost : (converse fresh lines).1 = .error (.notNumeral "²") := by decide +kernel
  have hreached : (converse fresh (List.replicate 64 "1")).1.toOption.isSome = true := by decide +kernel
  obtain ⟨next, hnext⟩ : ∃ next, (converse fresh (lines.filter (IsRoll ·))).1 = .ok next := by
    rw [hrolls]
    cases hconverse : (converse fresh (List.replicate 64 "1")).1 with
    | ok next => exact ⟨next, rfl⟩
    | error e =>
      rw [hconverse] at hreached
      exact nomatch hreached
  refine ⟨rfl, by decide, ⟨next, hnext⟩, hlost, ?_⟩
  rw [hlost, hnext]
  exact nofun

end Airgap.Session
