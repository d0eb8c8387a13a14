import Airgap.KeyTree.Path
import Airgap.Proofs.Outcome
import Airgap.Proofs.Text.Split
import Mathlib.Data.List.Induction

/-!
# Paths as text

* `Writes`, `WritesAll`, `Renders`: the components, the pieces and the texts that write a step and a
  path, said without the reader.
* `readIndex?_eq_some_iff`: a numeral is the decimal digits of its number behind any zeros.
* `renders_iff`: a text renders a path exactly if its components write the steps.
* `parse_reads_renderings`: exactly the renderings of a path are read as that path.
-/

namespace Airgap.KeyTree.Path

open Text (Padded isBlank strip splitWhere)

/-! ## What is written -/

/-- Whether a component writes a step: the digits of its index behind any zeros, and a mark behind them
exactly if the step is hardened. -/
def Writes (part : List Char) (c : ChildNumber) : Prop :=
  ∃ zeros mark, part = List.replicate zeros '0' ++ Nat.toDigits 10 c.index ++ mark ∧
    if c.hardened then ∃ x ∈ hardenedMarks, mark = [x] else mark = []

/-- Whether pieces write steps: behind an `m` or not, a component for each step, or one empty piece for
no step at all. -/
def WritesAll (parts : List (List Char)) (steps : List ChildNumber) : Prop :=
  ∃ root body, parts = root ++ body ∧ (root = [] ∨ root = [['m']] ∨ root = [['M']]) ∧
    (List.Forall₂ Writes body steps ∨ body = [[]] ∧ steps = [])

/-- Whether a text renders a path: pieces that write its steps, with slashes between them and blanks
around each and around the whole. -/
def Renders (p : Path) (text : String) : Prop :=
  ∃ parts padded, WritesAll parts p.steps ∧ List.Forall₂ Padded parts padded ∧
    Padded (['/'].intercalate padded) text.toList

/-! ## Numerals -/

section Numeral

variable {cs : List Char} {n : ℕ}

theorem isNumeralDigit_iff {c : Char} :
    isNumeralDigit c = true ↔ 48 ≤ c.toNat ∧ c.toNat ≤ 57 := by
  rw [isNumeralDigit, Bool.and_eq_true, decide_eq_true_eq, decide_eq_true_eq]
  exact Iff.rfl

theorem digitChar_of_isNumeralDigit {c : Char} (hc : isNumeralDigit c = true) :
    Nat.digitChar (c.toNat - 48) = c := by
  have hrange := isNumeralDigit_iff.mp hc
  apply Char.toNat_inj.mp
  rw [Nat.toNat_digitChar_of_lt_ten (by omega)]
  omega

theorem isNumeralDigit_of_mem_toDigits {c : Char} (hc : c ∈ Nat.toDigits 10 n) :
    isNumeralDigit c = true := by
  have h := Nat.isDigit_of_mem_toDigits (by decide) (by decide) hc
  rw [Char.isDigit, Bool.and_eq_true, decide_eq_true_eq, decide_eq_true_eq] at h
  exact isNumeralDigit_iff.mpr h

theorem isNumeralDigit_of_mem_numeral {zeros : ℕ} {c : Char}
    (hc : c ∈ List.replicate zeros '0' ++ Nat.toDigits 10 n) : isNumeralDigit c = true := by
  rcases List.mem_append.mp hc with hc | hc
  · rw [List.eq_of_mem_replicate hc]
    rfl
  · exact isNumeralDigit_of_mem_toDigits hc

/-- Digits are those of their number behind some zeros. -/
theorem exists_eq_replicate_append_toDigits (hne : cs ≠ [])
    (hcs : ∀ c ∈ cs, isNumeralDigit c = true) :
    ∃ zeros, cs = List.replicate zeros '0' ++ Nat.toDigits 10 (Nat.ofDigitChars 10 cs 0) := by
  induction cs using List.reverseRecOn with
  | nil => exact absurd rfl hne
  | append_singleton ds d ih =>
    have hd : isNumeralDigit d = true := hcs d (by simp)
    have hlt : d.toNat - 48 < 10 := by
      have := isNumeralDigit_iff.mp hd
      omega
    have hlast : Nat.toDigits 10 (d.toNat - 48) = [d] := by
      rw [Nat.toDigits_of_lt_base hlt, digitChar_of_isNumeralDigit hd]
    have hnumber : Nat.ofDigitChars 10 (ds ++ [d]) 0 =
        10 * Nat.ofDigitChars 10 ds 0 + (d.toNat - 48) := by
      rw [Nat.ofDigitChars_append]
      rfl
    rw [hnumber]
    by_cases hds : ds = []
    · subst hds
      refine ⟨0, ?_⟩
      rw [Nat.ofDigitChars_nil, Nat.mul_zero, Nat.zero_add, hlast]
      rfl
    · obtain ⟨zeros, hzeros⟩ := ih hds fun c hc => hcs c (List.mem_append_left _ hc)
      rcases Nat.eq_zero_or_pos (Nat.ofDigitChars 10 ds 0) with hzero | hpos
      · -- the digits before the last are zeros
        rw [hzero, Nat.toDigits_zero] at hzeros
        refine ⟨zeros + 1, ?_⟩
        rw [hzero, Nat.mul_zero, Nat.zero_add, hlast, List.replicate_succ', ← hzeros]
      · refine ⟨zeros, ?_⟩
        rw [← Nat.toDigits_append_toDigits (by decide) hpos hlt, hlast, ← List.append_assoc, ← hzeros]

theorem readIndex?_eq_some_iff :
    readIndex? cs = some n ↔ ∃ zeros, cs = List.replicate zeros '0' ++ Nat.toDigits 10 n := by
  have hread : readIndex? cs =
      if !cs.isEmpty && cs.all isNumeralDigit then some (Nat.ofDigitChars 10 cs 0) else none := rfl
  rw [hread]
  constructor
  · intro h
    split at h
    · rename_i hcs
      rw [Bool.and_eq_true, Bool.not_eq_true', List.isEmpty_eq_false_iff, List.all_eq_true] at hcs
      obtain rfl := Option.some.inj h
      exact exists_eq_replicate_append_toDigits hcs.1 hcs.2
    · exact nomatch h
  · rintro ⟨zeros, rfl⟩
    have hall : (List.replicate zeros '0' ++ Nat.toDigits 10 n).all isNumeralDigit = true :=
      List.all_eq_true.mpr fun c hc => isNumeralDigit_of_mem_numeral hc
    have hne : (List.replicate zeros '0' ++ Nat.toDigits 10 n).isEmpty = false :=
      List.isEmpty_eq_false_iff.mpr (List.append_ne_nil_of_right_ne_nil _ Nat.toDigits_ne_nil)
    rw [hne, hall]
    simp only [Bool.not_false, Bool.and_self, if_true]
    rw [Nat.ofDigitChars_append, Nat.ofDigitChars_replicate_zero, Nat.mul_zero,
      Nat.ofDigitChars_toDigits (by decide) (by decide)]

end Numeral

/-! ## Components -/

section Component

variable {c : ChildNumber} {text : String} {part : List Char}

theorem mem_hardenedMarks_iff {x : Char} :
    x ∈ hardenedMarks ↔ x = '\x27' ∨ x = 'h' ∨ x = 'H' := by
  simp only [hardenedMarks, List.mem_cons, List.not_mem_nil, or_false]

theorem isNumeralDigit_mark {x : Char} (hx : x ∈ hardenedMarks) : isNumeralDigit x = false := by
  rcases mem_hardenedMarks_iff.mp hx with rfl | rfl | rfl <;> rfl

theorem isMarked_iff : isMarked part = true ↔ ∃ x ∈ hardenedMarks, part.getLast? = some x := by
  simp only [isMarked, List.any_eq_true, beq_iff_eq]

theorem isMarked_append {ds : List Char} {x : Char} (hx : x ∈ hardenedMarks) :
    isMarked (ds ++ [x]) = true ∧ unmarked (ds ++ [x]) = ds := by
  have h : isMarked (ds ++ [x]) = true := isMarked_iff.mpr ⟨x, hx, List.getLast?_concat⟩
  rw [unmarked, if_pos h, List.dropLast_concat]
  exact ⟨h, rfl⟩

theorem isMarked_of_digits (hpart : ∀ x ∈ part, isNumeralDigit x = true) :
    isMarked part = false ∧ unmarked part = part := by
  have h : isMarked part = false := by
    rw [← Bool.not_eq_true, isMarked_iff]
    rintro ⟨x, hx, hlast⟩
    have hdigit := hpart x (List.mem_of_getLast? hlast)
    rw [isNumeralDigit_mark hx] at hdigit
    exact nomatch hdigit
  rw [unmarked, h]
  exact ⟨rfl, rfl⟩

/-- A component is its numeral and the mark behind it, if there is one. -/
theorem exists_eq_unmarked_append (part : List Char) : ∃ mark, part = unmarked part ++ mark ∧
    if isMarked part then ∃ x ∈ hardenedMarks, mark = [x] else mark = [] := by
  cases h : isMarked part with
  | false =>
    rw [unmarked, h]
    exact ⟨[], (List.append_nil part).symm, rfl⟩
  | true =>
    obtain ⟨x, hx, hlast⟩ := isMarked_iff.mp h
    rw [unmarked, if_pos h]
    exact ⟨[x], (List.dropLast_append_getLast? x hlast).symm, x, hx, rfl⟩

/-- A component writes a step exactly if its numeral is the index and its mark the flag. -/
theorem writes_iff : Writes part c ↔
    readIndex? (unmarked part) = some c.index ∧ isMarked part = c.hardened := by
  rw [readIndex?_eq_some_iff]
  constructor
  · rintro ⟨zeros, mark, rfl, hmark⟩
    cases hc : c.hardened with
    | true =>
      rw [hc] at hmark
      obtain ⟨x, hx, rfl⟩ := hmark
      obtain ⟨hmarked, hunmarked⟩ := isMarked_append hx
      exact ⟨⟨zeros, hunmarked⟩, hmarked⟩
    | false =>
      rw [hc] at hmark
      obtain rfl : mark = [] := hmark
      rw [List.append_nil]
      obtain ⟨hmarked, hunmarked⟩ := isMarked_of_digits fun x hx => isNumeralDigit_of_mem_numeral hx
      exact ⟨⟨zeros, hunmarked⟩, hmarked⟩
  · rintro ⟨⟨zeros, hzeros⟩, hmarked⟩
    obtain ⟨mark, hpart, hmark⟩ := exists_eq_unmarked_append part
    rw [hzeros] at hpart
    rw [hmarked] at hmark
    exact ⟨zeros, mark, hpart, hmark⟩

theorem ofIndex_natCast_eq_ok_iff {index : ℕ} {hardened : Bool} :
    ChildNumber.ofIndex index hardened = .ok c ↔ index = c.index ∧ hardened = c.hardened := by
  rw [ChildNumber.ofIndex]
  constructor
  · intro h
    split at h
    · obtain rfl := Except.ok.inj h
      exact ⟨rfl, rfl⟩
    · cases h
  · rintro ⟨rfl, rfl⟩
    have h := c.index_lt
    rw [dif_pos (by omega)]
    rfl

theorem readStep_eq_ok_iff : readStep text part = .ok c ↔
    Writes part c ∧ (unmarked part).length ≤ longestNumeral := by
  rw [writes_iff, readStep]
  cases readIndex? (unmarked part) with
  | none => simp
  | some index =>
    by_cases hlong : longestNumeral < (unmarked part).length
    · simp only [if_pos hlong, reduceCtorEq, false_iff]
      omega
    · simp only [if_neg hlong, ofIndex_natCast_eq_ok_iff, Option.some.injEq, Nat.le_of_not_lt hlong,
        and_true]

/-- Only a numeral that is too long is refused otherwise than as a wrong parameter. -/
theorem kind_of_readStep_eq_error {e : Error} (h : readStep text part = .error e) :
    e.kind = .parameter ∨
      (∀ x ∈ unmarked part, isNumeralDigit x = true) ∧ longestNumeral < (unmarked part).length := by
  rw [readStep] at h
  split at h
  · rename_i index hindex
    split at h
    · obtain ⟨zeros, hzeros⟩ := readIndex?_eq_some_iff.mp hindex
      refine .inr ⟨fun x hx => ?_, ‹_›⟩
      rw [hzeros] at hx
      exact isNumeralDigit_of_mem_numeral hx
    · rw [ChildNumber.ofIndex] at h
      split at h
      · cases h
      · obtain rfl := Except.error.inj h
        exact .inl rfl
  · obtain rfl := Except.error.inj h
    exact .inl rfl

end Component

/-! ## Pieces -/

section Pieces

variable {steps : List ChildNumber} {parts : List (List Char)} {text : String} {p : Path}

theorem Writes.not_nil {c : ChildNumber} : ¬Writes [] c := by
  rintro ⟨zeros, mark, h, -⟩
  exact Nat.toDigits_ne_nil (List.append_eq_nil_iff.mp (List.append_eq_nil_iff.mp h.symm).1).2

/-- A component of a step is made of digits and marks. -/
theorem Writes.mem_cases {c : ChildNumber} {part : List Char} (h : Writes part c) {x : Char}
    (hx : x ∈ part) : isNumeralDigit x = true ∨ x ∈ hardenedMarks := by
  obtain ⟨zeros, mark, rfl, hmark⟩ := h
  rcases List.mem_append.mp hx with hx | hx
  · exact .inl (isNumeralDigit_of_mem_numeral hx)
  · split at hmark
    · obtain ⟨y, hy, rfl⟩ := hmark
      rw [List.mem_singleton.mp hx]
      exact .inr hy
    · rw [hmark] at hx
      exact nomatch hx

theorem Writes.not_root {c : ChildNumber} {part : List Char} (h : Writes part c) :
    part ≠ ['m'] ∧ part ≠ ['M'] := by
  have hm : ¬(isNumeralDigit 'm' = true ∨ 'm' ∈ hardenedMarks) := by decide
  have hM : ¬(isNumeralDigit 'M' = true ∨ 'M' ∈ hardenedMarks) := by decide
  constructor
  · rintro rfl
    exact hm (h.mem_cases List.mem_cons_self)
  · rintro rfl
    exact hM (h.mem_cases List.mem_cons_self)

theorem not_isBlank_of_digit_or_mark {x : Char} (hx : isNumeralDigit x = true ∨ x ∈ hardenedMarks) :
    isBlank x = false ∧ x ≠ '/' := by
  rcases hx with hx | hx
  · have hrange := isNumeralDigit_iff.mp hx
    refine ⟨?_, ?_⟩
    · simp only [isBlank, Bool.or_eq_false_iff, Bool.and_eq_false_iff, decide_eq_false_iff_not,
        beq_eq_false_iff_ne]
      omega
    · rintro rfl
      exact absurd hx (by decide)
  · rcases mem_hardenedMarks_iff.mp hx with rfl | rfl | rfl <;> decide

theorem exists_writes (h : List.Forall₂ Writes parts steps) {part : List Char} (hpart : part ∈ parts) :
    ∃ c, Writes part c := by
  have hboth : List.Forall₂ (fun part c => (∃ c, Writes part c) ∧ Writes part c) parts steps :=
    h.imp fun _ c hc => ⟨⟨c, hc⟩, hc⟩
  exact ((List.forall₂_and_left parts steps).mp hboth).1 part hpart

theorem ne_slash_of_isBlank {x : Char} (hx : isBlank x = true) : x ≠ '/' := by
  rintro rfl
  exact absurd hx (by decide)

/-- No piece that is written holds a blank or a slash. -/
theorem WritesAll.tidy (h : WritesAll parts steps) {part : List Char} (hpart : part ∈ parts) {x : Char}
    (hx : x ∈ part) : isBlank x = false ∧ x ≠ '/' := by
  obtain ⟨root, body, rfl, hroot, hbody⟩ := h
  rcases List.mem_append.mp hpart with hpart | hpart
  · rcases hroot with rfl | rfl | rfl
    · exact nomatch hpart
    · obtain rfl := List.mem_singleton.mp hpart
      obtain rfl := List.mem_singleton.mp hx
      decide
    · obtain rfl := List.mem_singleton.mp hpart
      obtain rfl := List.mem_singleton.mp hx
      decide
  · rcases hbody with hbody | ⟨rfl, -⟩
    · obtain ⟨c, hc⟩ := exists_writes hbody hpart
      exact not_isBlank_of_digit_or_mark (hc.mem_cases hx)
    · obtain rfl := List.mem_singleton.mp hpart
      exact nomatch hx

/-- Behind the root stand the components of the steps. -/
theorem forall₂_afterRoot_iff :
    List.Forall₂ Writes (afterRoot parts) steps ↔ WritesAll parts steps := by
  have hrest (body : List (List Char)) :
      List.Forall₂ Writes (if body == [[]] then [] else body) steps ↔
        List.Forall₂ Writes body steps ∨ body = [[]] ∧ steps = [] := by
    by_cases h : body = [[]]
    · subst h
      simp only [beq_self_eq_true, if_true, List.forall₂_nil_left_iff, true_and]
      refine ⟨.inr, fun h => h.resolve_left fun h => ?_⟩
      cases h with
      | cons hc _ => exact hc.not_nil
    · simp only [beq_iff_eq, h, if_false, false_and, or_false]
  have hbare {body : List (List Char)} (hm : body.head? ≠ some ['m'])
      (hM : body.head? ≠ some ['M']) : afterRoot body = if body == [[]] then [] else body := by
    simp only [afterRoot, beq_eq_false_iff_ne.mpr hm, beq_eq_false_iff_ne.mpr hM, Bool.or_self,
      Bool.false_eq_true, if_false]
  constructor
  · intro h
    by_cases hm : parts.head? = some ['m']
    · obtain ⟨body, rfl⟩ := List.head?_eq_some_iff.mp hm
      exact ⟨[['m']], body, rfl, .inr (.inl rfl), (hrest body).mp h⟩
    · by_cases hM : parts.head? = some ['M']
      · obtain ⟨body, rfl⟩ := List.head?_eq_some_iff.mp hM
        exact ⟨[['M']], body, rfl, .inr (.inr rfl), (hrest body).mp h⟩
      · rw [hbare hm hM] at h
        exact ⟨[], parts, rfl, .inl rfl, (hrest parts).mp h⟩
  · rintro ⟨root, body, rfl, rfl | rfl | rfl, hbody⟩
    · -- no component of a step is a root
      have hhead : body.head? ≠ some ['m'] ∧ body.head? ≠ some ['M'] := by
        rcases hbody with hbody | ⟨rfl, -⟩
        · cases hbody with
          | nil => exact ⟨nofun, nofun⟩
          | cons hc _ =>
            rw [List.head?_cons, ne_eq, ne_eq, Option.some.injEq, Option.some.injEq]
            exact hc.not_root
        · decide
      rw [List.nil_append, hbare hhead.1 hhead.2]
      exact (hrest body).mpr hbody
    · exact (hrest body).mpr hbody
    · exact (hrest body).mpr hbody

theorem mem_of_mem_afterRoot {part : List Char} (h : part ∈ afterRoot parts) : part ∈ parts := by
  simp only [afterRoot] at h
  split at h
  · split at h
    · exact nomatch h
    · exact List.mem_of_mem_tail h
  · split at h
    · exact nomatch h
    · exact h

/-- What blanks around tidy pieces leave unchanged. -/
theorem strip_of_forall₂_padded {padded : List (List Char)}
    (htidy : ∀ part ∈ parts, ∀ x ∈ part, isBlank x = false ∧ x ≠ '/')
    (h : List.Forall₂ Padded parts padded) :
    padded.map strip = parts ∧ ∀ w ∈ padded, ∀ x ∈ w, (x == '/') = false := by
  induction h with
  | nil => exact ⟨rfl, fun _ hw => (nomatch hw)⟩
  | @cons part w parts padded hw _ ih =>
    obtain ⟨hpart, htidy⟩ := List.forall_mem_cons.mp htidy
    obtain ⟨hmap, hslash⟩ := ih htidy
    have hstrip : strip w = part := by
      rw [hw.strip_eq]
      exact Text.strip_eq_self (fun x hx => (hpart x (List.mem_of_mem_head? hx)).1)
        fun x hx => (hpart x (List.mem_of_getLast? hx)).1
    refine ⟨by rw [List.map_cons, hstrip, hmap], List.forall_mem_cons.mpr ⟨fun x hx => ?_, hslash⟩⟩
    rw [beq_eq_false_iff_ne]
    obtain ⟨before, after, hbefore, hafter, rfl⟩ := hw
    rcases List.mem_append.mp hx with hx | hx
    · rcases List.mem_append.mp hx with hx | hx
      · exact ne_slash_of_isBlank (hbefore x hx)
      · exact (hpart x hx).2
    · exact ne_slash_of_isBlank (hafter x hx)

/-- Tidy pieces with slashes between them and blanks around them are found again. -/
theorem pieces_eq {padded : List (List Char)} {cs : List Char} (hne : parts ≠ [])
    (htidy : ∀ part ∈ parts, ∀ x ∈ part, isBlank x = false ∧ x ≠ '/')
    (hpadded : List.Forall₂ Padded parts padded) (hcs : Padded (['/'].intercalate padded) cs) :
    pieces cs = parts := by
  have hslash (x : Char) (hx : isBlank x = true) : (x == '/') = false :=
    beq_eq_false_iff_ne.mpr (ne_slash_of_isBlank hx)
  obtain ⟨hstrip, hfree⟩ := strip_of_forall₂_padded htidy hpadded
  have hne' : padded ≠ [] := by
    rintro rfl
    exact hne (List.forall₂_nil_right_iff.mp hpadded)
  have hsplit : splitWhere (· == '/') (['/'].intercalate padded) = padded :=
    Text.splitWhere_intercalate (beq_self_eq_true '/') hne' hfree
  calc pieces cs
      = (splitWhere (· == '/') cs).map strip :=
        ((Text.padded_strip cs).map_strip_splitWhere hslash).symm
    _ = (splitWhere (· == '/') (['/'].intercalate padded)).map strip :=
        hcs.map_strip_splitWhere hslash
    _ = parts := by rw [hsplit, hstrip]

/-- A text renders a path exactly if its components write the steps. -/
theorem renders_iff : p.Renders text ↔ List.Forall₂ Writes (components text.toList) p.steps := by
  rw [components, forall₂_afterRoot_iff]
  constructor
  · rintro ⟨parts, padded, hparts, hpadded, htext⟩
    by_cases hne : parts = []
    · -- no piece at all is the same text as one empty piece
      subst hne
      obtain rfl := List.forall₂_nil_left_iff.mp hpadded
      have hempty : pieces text.toList = [[]] :=
        pieces_eq (List.cons_ne_nil _ _) (fun part hpart x hx => by
          rw [List.mem_singleton.mp hpart] at hx
          exact nomatch hx) (.cons (Padded.refl []) .nil) htext
      obtain ⟨root, body, hnil, -, hbody⟩ := hparts
      obtain ⟨rfl, rfl⟩ := List.append_eq_nil_iff.mp hnil.symm
      rw [hempty]
      refine ⟨[], [[]], rfl, .inl rfl, .inr ⟨rfl, ?_⟩⟩
      rcases hbody with hbody | ⟨hbody, -⟩
      · exact List.forall₂_nil_left_iff.mp hbody
      · exact nomatch hbody
    · rwa [pieces_eq hne (fun part hpart x hx => hparts.tidy hpart hx) hpadded htext]
  · intro h
    refine ⟨pieces text.toList, splitWhere (· == '/') (strip text.toList), h, ?_, ?_⟩
    · rw [pieces, List.forall₂_map_left_iff, List.forall₂_same]
      exact fun w _ => Text.padded_strip w
    · rw [Text.intercalate_splitWhere]
      exact Text.padded_strip _

end Pieces

/-! ## Reading -/

section Reading

variable {text : String} {p : Path}

/-- A path is read from its renderings whose numerals are not too long. -/
theorem parse_eq_ok_iff : parse text = .ok p ↔
    p.Renders text ∧ ∀ part ∈ components text.toList, (unmarked part).length ≤ longestNumeral := by
  have hmap : parse text = .ok p ↔ (components text.toList).mapM (readStep text) = .ok p.steps := by
    rw [parse, bind_eq_ok]
    constructor
    · rintro ⟨steps, h, hp⟩
      obtain rfl := Except.ok.inj hp
      exact h
    · intro h
      exact ⟨p.steps, h, rfl⟩
  rw [hmap, mapM_eq_ok_iff, renders_iff, and_comm, ← List.forall₂_and_left]
  simp only [readStep_eq_ok_iff, and_comm]

theorem Writes.isNumeralDigit_unmarked {c : ChildNumber} {part : List Char} (h : Writes part c) {x : Char}
    (hx : x ∈ unmarked part) : isNumeralDigit x = true := by
  obtain ⟨zeros, hzeros⟩ := readIndex?_eq_some_iff.mp (writes_iff.mp h).1
  rw [hzeros] at hx
  exact isNumeralDigit_of_mem_numeral hx

/-- Whether no piece of a text, which is digits with a mark behind them or not, has more digits than are
read. -/
def ShortNumerals (text : String) : Prop :=
  ∀ part ∈ pieces text.toList, ∀ ds mark, part = ds ++ mark →
    (mark = [] ∨ ∃ x ∈ hardenedMarks, mark = [x]) → (∀ x ∈ ds, isNumeralDigit x = true) →
    ds.length ≤ longestNumeral

theorem ShortNumerals.length_unmarked (h : ShortNumerals text) {part : List Char}
    (hpart : part ∈ components text.toList)
    (hdigits : ∀ x ∈ unmarked part, isNumeralDigit x = true) :
    (unmarked part).length ≤ longestNumeral := by
  obtain ⟨mark, happend, hmark⟩ := exists_eq_unmarked_append part
  refine h part (mem_of_mem_afterRoot hpart) _ mark happend ?_ hdigits
  split at hmark
  · exact .inr hmark
  · exact .inl hmark

theorem ShortNumerals.parse_eq_ok_iff (h : ShortNumerals text) :
    parse text = .ok p ↔ p.Renders text := by
  rw [Path.parse_eq_ok_iff, and_iff_left_of_imp]
  intro hp part hpart
  obtain ⟨c, hc⟩ := exists_writes (renders_iff.mp hp) hpart
  exact h.length_unmarked hpart fun x hx => hc.isNumeralDigit_unmarked hx

theorem ShortNumerals.kind_of_parse_eq_error (h : ShortNumerals text) {e : Error}
    (he : parse text = .error e) : e.kind = .parameter := by
  rw [parse, bind_eq_error] at he
  rcases he with he | ⟨steps, -, he⟩
  · obtain ⟨part, hpart, he⟩ := exists_of_mapM_eq_error he
    rcases kind_of_readStep_eq_error he with he | ⟨hdigits, hlong⟩
    · exact he
    · exact absurd (h.length_unmarked hpart hdigits) (Nat.not_le_of_lt hlong)
  · exact nomatch he

/-! ## Writing -/

theorem toList_text_step (c : ChildNumber) :
    c.text.toList = Nat.toDigits 10 c.index ++ if c.hardened then ['\x27'] else [] := by
  have hdigits : (toString c.index).toList = Nat.toDigits 10 c.index := by
    rw [Nat.toString_eq_repr, Nat.repr_eq_ofList_toDigits, String.toList_ofList]
  rw [ChildNumber.text]
  cases c.hardened with
  | true =>
    rw [← hdigits]
    exact String.toList_append
  | false =>
    rw [← hdigits]
    exact (List.append_nil _).symm

theorem writes_text (c : ChildNumber) : Writes c.text.toList c := by
  refine ⟨0, if c.hardened then ['\x27'] else [], toList_text_step c, ?_⟩
  cases c.hardened with
  | true => exact ⟨'\x27', by decide, rfl⟩
  | false => rfl

/-- The pieces of a path as it is written. -/
theorem exists_pieces_text (p : Path) : ∃ parts, parts = ['m'] :: p.steps.map (·.text.toList) ∧
    WritesAll parts p.steps ∧ p.text.toList = ['/'].intercalate parts := by
  refine ⟨_, rfl, ⟨[['m']], _, rfl, .inr (.inl rfl), .inl ?_⟩, ?_⟩
  · rw [List.forall₂_map_left_iff, List.forall₂_same]
    exact fun c _ => writes_text c
  · rw [text, String.toList_intercalate, List.map_cons, List.map_map]
    rfl

theorem renders_text (p : Path) : p.Renders p.text := by
  obtain ⟨parts, -, hparts, htext⟩ := exists_pieces_text p
  refine ⟨parts, parts, hparts, List.forall₂_same.mpr fun w _ => Padded.refl w, ?_⟩
  rw [htext]
  exact Padded.refl _

theorem length_unmarked_text (c : ChildNumber) : (unmarked c.text.toList).length ≤ longestNumeral := by
  have hlength : (Nat.toDigits 10 c.index).length ≤ 10 := by
    rw [Nat.length_toDigits_le_iff (by decide) (by decide)]
    have h := c.index_lt
    simp only [hardenedOffset] at h
    omega
  have hunmarked : unmarked c.text.toList = Nat.toDigits 10 c.index := by
    rw [toList_text_step]
    cases c.hardened with
    | true => exact (isMarked_append (by decide)).2
    | false =>
      simp only [Bool.false_eq_true, if_false, List.append_nil]
      exact (isMarked_of_digits fun x hx => isNumeralDigit_of_mem_toDigits hx).2
  rw [hunmarked, longestNumeral]
  omega

/-- The text of a path is read as the path. -/
theorem parse_text (p : Path) : parse p.text = .ok p := by
  refine parse_eq_ok_iff.mpr ⟨renders_text p, fun part hpart => ?_⟩
  obtain ⟨parts, hcons, hparts, htext⟩ := exists_pieces_text p
  have hne : parts ≠ [] := by
    rw [hcons]
    exact List.cons_ne_nil _ _
  have hpieces : pieces p.text.toList = parts := by
    refine pieces_eq hne (fun part hpart x hx => hparts.tidy hpart hx)
      (List.forall₂_same.mpr fun w _ => Padded.refl w) ?_
    rw [htext]
    exact Padded.refl _
  obtain ⟨c, hc⟩ := exists_writes (renders_iff.mp (renders_text p)) hpart
  rw [components, hpieces, hcons] at hpart
  rcases List.mem_cons.mp (mem_of_mem_afterRoot hpart) with hroot | hstep
  · exact absurd hroot hc.not_root.1
  · obtain ⟨step, -, rfl⟩ := List.mem_map.mp hstep
    exact length_unmarked_text step

end Reading

/-- **Exactly the renderings of a path are read as that path.** The text of a path is read as the path.
A text whose numerals are not too long is read as a path exactly if it renders it, and is refused as a
wrong parameter if it renders none. The step of the number of a step is that step. -/
theorem parse_reads_renderings :
    (∀ p : Path, parse p.text = .ok p) ∧
    (∀ text, ShortNumerals text → (∀ p : Path, parse text = .ok p ↔ p.Renders text) ∧
      ((∀ p : Path, ¬p.Renders text) → ∃ e, parse text = .error e ∧ e.kind = .parameter)) ∧
    ∀ p : Path, ∀ c ∈ p.steps, ChildNumber.ofRaw c.raw = .ok c := by
  refine ⟨parse_text, fun text h => ⟨fun p => h.parse_eq_ok_iff, fun hnone => ?_⟩,
    fun p c _ => c.ofRaw_raw⟩
  cases hparse : parse text with
  | ok p => exact absurd (h.parse_eq_ok_iff.mp hparse) (hnone p)
  | error e => exact ⟨e, rfl, h.kind_of_parse_eq_error hparse⟩

theorem isInfix_of_mem_pieces {cs part : List Char} (h : part ∈ pieces cs) : part <:+: cs := by
  obtain ⟨w, hw, rfl⟩ := List.mem_map.mp h
  have hwhole : w <:+: strip cs := by
    have hjoined : w <:+: ['/'].intercalate (splitWhere (· == '/') (strip cs)) :=
      Text.isInfix_intercalate hw
    rwa [Text.intercalate_splitWhere] at hjoined
  exact (Text.strip_isInfix w).trans (hwhole.trans (Text.strip_isInfix cs))

theorem shortNumerals_of_length {text : String} (h : text.toList.length ≤ longestNumeral) :
    ShortNumerals text := by
  rintro part hpart ds mark rfl - -
  have hpiece := (isInfix_of_mem_pieces hpart).length_le
  rw [List.length_append] at hpiece
  omega

/-- An account in another spelling than its own, and a text with a sign. -/
theorem parse_reads_renderings_account :
    let account : Path := ⟨[⟨44, true, by decide⟩, ⟨2147483647, false, by decide⟩]⟩
    ShortNumerals " M / 0044h/2147483647\t" ∧ account.Renders " M / 0044h/2147483647\t" ∧
      parse account.text = .ok account ∧ account.text = "m/44'/2147483647" ∧
      (∀ c ∈ account.steps, ChildNumber.ofRaw c.raw = .ok c) ∧
      ShortNumerals "m/-1" ∧ ∃ e, parse "m/-1" = .error e ∧ e.kind = .parameter := by
  intro account
  obtain ⟨hwrite, hread, hraw⟩ := parse_reads_renderings
  have hspelled : ShortNumerals " M / 0044h/2147483647\t" := shortNumerals_of_length (by decide)
  have hsigned : ShortNumerals "m/-1" := shortNumerals_of_length (by decide)
  have hparse : parse " M / 0044h/2147483647\t" = .ok account := by decide
  refine ⟨hspelled, ((hread _ hspelled).1 account).mp hparse, hwrite account, by decide,
    hraw account, hsigned, (hread _ hsigned).2 fun p hp => ?_⟩
  have herror : parse "m/-1" = .error (.pathComponent "-1" "m/-1") := by decide
  rw [((hread _ hsigned).1 p).mpr hp] at herror
  exact nomatch herror

end Airgap.KeyTree.Path
