import Airgap.Proofs.WordList
import Mathlib.Data.String.Basic

/-!
# Suggestions

* `prefix_le`, `prefix_of_between`: the texts that start with a key stand together in code-point order,
  the key in front of them.
* `bisect_spec`: halving finds the place of a key in ordered texts.
* `startingWith_eq`: what is listed from there on are all words that start with the key.
* `complete_of_unique`, `complete_of_listed`: when a word is completed.
* `Suggests`: the words that start with a key, in order and with their places.
* `search_suggests`: the first of these are suggested, and a key is completed to the only one.
-/

namespace Airgap.WordList

open Mnemonic (normalizeWord)

/-! ## Code-point order -/

section Prefix

variable {α : Type*} [LinearOrder α]

theorem cons_le_cons_iff {x y : α} {k a : List α} : x :: k ≤ y :: a ↔ x < y ∨ x = y ∧ k ≤ a := by
  rw [← not_lt, ← not_lt, List.cons_lt_cons_iff, not_or, not_and, not_lt, le_iff_lt_or_eq]
  constructor
  · rintro ⟨h | rfl, h'⟩
    · exact .inl h
    · exact .inr ⟨rfl, h' rfl⟩
  · rintro (h | ⟨rfl, h⟩)
    · exact ⟨.inl h, fun he => absurd (he ▸ h) (lt_irrefl _)⟩
    · exact ⟨.inr rfl, fun _ => h⟩

theorem prefix_le {k l : List α} (h : k <+: l) : k ≤ l := by
  obtain ⟨rest, rfl⟩ := h
  induction k with
  | nil => exact not_lt.mp fun h => nomatch h
  | cons x k ih => exact List.cons_le_cons x ih

theorem prefix_of_between {k a b : List α} (hka : k ≤ a) (hab : a ≤ b) (hkb : k <+: b) : k <+: a := by
  induction k generalizing a b with
  | nil => exact List.nil_prefix
  | cons x k ih =>
    obtain ⟨rest, rfl⟩ := hkb
    cases a with
    | nil => exact absurd List.Lex.nil (not_lt.mpr hka)
    | cons y a =>
      rw [List.cons_append] at hab
      -- the first letter of `a` is neither before nor after that of the key
      rcases cons_le_cons_iff.mp hka with hxy | ⟨rfl, hrest⟩
      · rcases cons_le_cons_iff.mp hab with hyx | ⟨rfl, -⟩
        · exact absurd hxy (lt_asymm hyx)
        · exact absurd hxy (lt_irrefl _)
      · rcases cons_le_cons_iff.mp hab with hxx | ⟨-, hrest'⟩
        · exact absurd hxx (lt_irrefl _)
        · exact List.cons_prefix_cons.mpr ⟨rfl, ih hrest hrest' (List.prefix_append k rest)⟩

end Prefix

theorem notAfter_iff {a b : String} : notAfter a b = true ↔ a ≤ b := by
  rw [notAfter, Bool.not_eq_true', decide_eq_false_iff_not, not_lt]

/-! ## Places -/

variable {l : WordList}

theorem toList_sorted (l : WordList) : l.sorted.toList = l.words.toList.mergeSort notAfter := rfl

theorem pairwise_sorted (l : WordList) : l.sorted.toList.Pairwise (· ≤ ·) := by
  have htrans : ∀ a b c : String, notAfter a b → notAfter b c → notAfter a c := by
    intro a b c hab hbc
    exact notAfter_iff.mpr (le_trans (notAfter_iff.mp hab) (notAfter_iff.mp hbc))
  have htotal : ∀ a b : String, notAfter a b || notAfter b a := by
    intro a b
    rw [Bool.or_eq_true, notAfter_iff, notAfter_iff]
    exact le_total a b
  have h := List.pairwise_mergeSort htrans htotal l.words.toList
  exact h.imp fun hab => notAfter_iff.mp hab

theorem mem_toList {w : String} : w ∈ l.words.toList ↔ ∃ i, l.word i = w := by
  rw [Vector.mem_toList_iff, Vector.mem_iff_getElem]
  exact ⟨fun ⟨i, hi, h⟩ => ⟨⟨i, hi⟩, h⟩, fun ⟨i, h⟩ => ⟨i, i.isLt, h⟩⟩

theorem mem_sorted {w : String} : w ∈ l.sorted.toList ↔ ∃ i, l.word i = w := by
  rw [toList_sorted, List.mem_mergeSort, mem_toList]

theorem nodup_sorted (l : WordList) : l.sorted.toList.Nodup :=
  (List.mergeSort_perm _ _).nodup_iff.mpr l.nodup

theorem getElem_mono {ws : Array String} (hws : ws.toList.Pairwise (· ≤ ·)) {i j : ℕ} (hij : i ≤ j)
    (hj : j < ws.size) : ws[i] ≤ ws[j] := by
  rcases Nat.lt_or_eq_of_le hij with hlt | rfl
  · exact List.pairwise_iff_getElem.mp hws i j (Nat.lt_trans hlt hj) hj hlt
  · exact le_refl _

/-- **Halving finds the place of a key**: what stands before it is before the key, and the rest is not. -/
theorem bisect_spec {ws : Array String} (hws : ws.toList.Pairwise (· ≤ ·)) (key : String) {low high : ℕ}
    (hle : low ≤ high) (hsize : high ≤ ws.size)
    (hlow : ∀ i (hi : i < ws.size), i < low → ws[i] < key)
    (hhigh : ∀ i (hi : i < ws.size), high ≤ i → key ≤ ws[i]) :
    (∀ i (hi : i < ws.size), i < bisect ws key low high → ws[i] < key) ∧
      ∀ i (hi : i < ws.size), bisect ws key low high ≤ i → key ≤ ws[i] := by
  fun_induction bisect ws key low high with
  | case1 low high hlt middle hbefore ih =>
    have hmiddle : middle < ws.size := by omega
    rw [Array.getD_eq_getD_getElem?, Array.getElem?_eq_getElem hmiddle, Option.getD_some] at hbefore
    refine ih (by omega) hsize (fun i hi hlow' => ?_) hhigh
    exact lt_of_le_of_lt (getElem_mono hws (by omega) hmiddle) hbefore
  | case2 low high hlt middle hafter ih =>
    have hmiddle : middle < ws.size := by omega
    rw [Array.getD_eq_getD_getElem?, Array.getElem?_eq_getElem hmiddle, Option.getD_some, not_lt]
      at hafter
    refine ih (by omega) (by omega) hlow fun i hi hhigh' => ?_
    exact le_trans hafter (getElem_mono hws hhigh' hi)
  | case3 low high hge =>
    have heq : low = high := by omega
    exact ⟨hlow, heq ▸ hhigh⟩

/-! ## The words that start with a key -/

theorem startsWith_iff {key w : String} : startsWith key w = true ↔ key.toList <+: w.toList :=
  List.isPrefixOf_iff_prefix

theorem le_of_startsWith {key w : String} (h : startsWith key w = true) : key ≤ w :=
  String.le_iff_toList_le.mpr (prefix_le (startsWith_iff.mp h))

/-- In ordered words from the key on, those that start with it come first. -/
theorem takeWhile_startsWith {key : String} {ws : List String} (hws : ws.Pairwise (· ≤ ·))
    (hkey : ∀ w ∈ ws, key ≤ w) : ws.takeWhile (startsWith key) = ws.filter (startsWith key) := by
  induction ws with
  | nil => rfl
  | cons w ws ih =>
    by_cases hw : startsWith key w = true
    · rw [List.takeWhile_cons_of_pos hw, List.filter_cons_of_pos hw,
        ih hws.of_cons fun v hv => hkey v (List.mem_cons_of_mem w hv)]
    · rw [List.takeWhile_cons_of_neg hw, List.filter_cons_of_neg hw, eq_comm, List.filter_eq_nil_iff]
      intro v hv hstarts
      apply hw
      rw [startsWith_iff] at hstarts ⊢
      exact prefix_of_between (String.le_iff_toList_le.mp (hkey w List.mem_cons_self))
        (String.le_iff_toList_le.mp (List.rel_of_pairwise_cons hws hv)) hstarts

/-- **The words that are listed for a key are all that start with it**, in order. -/
theorem startingWith_eq (l : WordList) (key : String) :
    l.startingWith key = l.sorted.toList.filter (startsWith key) := by
  obtain ⟨hbefore, hafter⟩ := bisect_spec l.pairwise_sorted key (Nat.zero_le l.sorted.size)
    (Nat.le_refl _) (fun i _ hi => absurd hi (Nat.not_lt_zero i)) fun i hi hge => absurd hi (by omega)
  set place := bisect l.sorted key 0 l.sorted.size
  have hfront : (l.sorted.toList.take place).filter (startsWith key) = [] := by
    rw [List.filter_eq_nil_iff]
    intro w hw hstarts
    obtain ⟨i, hi, rfl⟩ := List.mem_iff_getElem.mp hw
    rw [List.length_take, Array.length_toList] at hi
    rw [List.getElem_take, Array.getElem_toList] at hstarts
    exact absurd (le_of_startsWith hstarts) (not_le.mpr (hbefore i (by omega) (by omega)))
  have hback : ∀ w ∈ l.sorted.toList.drop place, key ≤ w := by
    intro w hw
    obtain ⟨i, hi, rfl⟩ := List.mem_iff_getElem.mp hw
    rw [List.length_drop, Array.length_toList] at hi
    rw [List.getElem_drop, Array.getElem_toList]
    exact hafter (place + i) (by omega) (by omega)
  have hsplit := congrArg (List.filter (startsWith key)) (List.take_append_drop place l.sorted.toList)
  rw [List.filter_append, hfront, List.nil_append] at hsplit
  rw [← hsplit, ← takeWhile_startsWith (l.pairwise_sorted.drop) hback]
  rfl

theorem mem_startingWith {key w : String} :
    w ∈ l.startingWith key ↔ (∃ i, l.word i = w) ∧ key.toList <+: w.toList := by
  rw [startingWith_eq, List.mem_filter, mem_sorted, startsWith_iff]

theorem nodup_startingWith (l : WordList) (key : String) : (l.startingWith key).Nodup := by
  rw [startingWith_eq]
  exact l.nodup_sorted.filter _

/-! ## Completion -/

theorem exists_find? {w : String} (h : ∃ i, l.word i = w) : ∃ i, l.find? w = some i := by
  obtain ⟨i, hi⟩ := h
  exact ⟨i, find?_eq_some_iff.mpr hi⟩

/-- A word with its place, in a list that has the word. -/
def placed (l : WordList) (w : String) : String × WordIndex := (w, (l.find? w).getD ⟨0, Nat.zero_lt_succ _⟩)

/-- What is suggested for a key are the first of its words, each with its place. -/
theorem search_eq_map {typed key : String} (hkey : normalizeWord typed = key) (hne : key ≠ "") (limit : ℤ) :
    l.search typed limit = ((l.startingWith key).map l.placed).take limit.toNat := by
  have hempty : key.isEmpty = false := by simpa using hne
  have hplaced : ∀ w ∈ (l.startingWith key).take limit.toNat,
      ((l.find? w).map fun i => (w, i)) = some (l.placed w) := by
    intro w hw
    obtain ⟨i, hi⟩ := exists_find? (mem_startingWith.mp (List.mem_of_mem_take hw)).1
    rw [placed, hi]
    rfl
  rw [search, hkey]
  simp only [hempty, Bool.false_eq_true, if_false]
  rw [List.filterMap_congr hplaced, List.filterMap_eq_map', List.map_take]

theorem search_eq {typed key : String} (hkey : normalizeWord typed = key) (hne : key ≠ "") (limit : ℤ) :
    (l.search typed limit).map (·.1) = (l.startingWith key).take limit.toNat := by
  have hwords : (fun e : String × WordIndex => e.1) ∘ l.placed = id := rfl
  rw [search_eq_map hkey hne, List.map_take, List.map_map, hwords, List.map_id]

/-- The only word that starts with a key is what the key is completed to. -/
theorem complete_of_unique {typed key w : String} (hkey : normalizeWord typed = key) (hne : key ≠ "")
    (h : l.startingWith key = [w]) : l.complete typed = some w := by
  have hsearch := search_eq (l := l) hkey hne 2
  rw [h] at hsearch
  obtain ⟨e, he, hew⟩ : ∃ e, l.search typed 2 = [e] ∧ e.1 = w := by
    cases hs : l.search typed 2 with
    | nil => simp [hs] at hsearch
    | cons e es =>
      simp [hs] at hsearch
      obtain ⟨hew, rfl⟩ := hsearch
      exact ⟨e, rfl, hew⟩
  rw [complete, he, ← hew]

/-- Where it is not a single word that starts with a key, the key is completed to itself if it is listed. -/
theorem complete_of_not_unique {typed key : String} (hkey : normalizeWord typed = key)
    (h : ∀ w, l.startingWith key ≠ [w]) :
    l.complete typed = if (l.find? key).isSome then some key else none := by
  rw [complete]
  split
  · rename_i e he
    exfalso
    by_cases hne : key = ""
    · rw [search, hkey, hne] at he
      exact nomatch he
    · have hsearch := search_eq (l := l) hkey hne 2
      rw [he] at hsearch
      -- of several words the search shows two, and of one word that one
      cases hs : l.startingWith key with
      | nil => simp [hs] at hsearch
      | cons w ws =>
        cases ws with
        | nil => exact absurd hs (h w)
        | cons v ws => simp [hs] at hsearch
  · rw [hkey]

/-- A word that others start with too is completed to itself. -/
theorem complete_of_listed {typed key : String} (hkey : normalizeWord typed = key)
    (hlisted : ∃ i, l.word i = key) (h : ∀ w, l.startingWith key ≠ [w]) :
    l.complete typed = some key := by
  obtain ⟨i, hi⟩ := exists_find? hlisted
  rw [complete_of_not_unique hkey h, hi]
  rfl

/-! ## What is suggested -/

/-- The words of a list that start with a key, in code-point order, each with its place. -/
structure Suggests (l : WordList) (key : String) (entries : List (String × WordIndex)) : Prop where
  increasing : entries.Pairwise fun a b => a.1 < b.1
  mem_iff : ∀ e, e ∈ entries ↔ l.word e.2 = e.1 ∧ key.toList <+: e.1.toList

theorem suggests_placed (l : WordList) (key : String) :
    l.Suggests key ((l.startingWith key).map l.placed) := by
  constructor
  · have hle : (l.startingWith key).Pairwise (· ≤ ·) := by
      rw [startingWith_eq]
      exact l.pairwise_sorted.filter _
    refine List.pairwise_map.mpr ((hle.and (l.nodup_startingWith key)).imp fun h => ?_)
    exact lt_of_le_of_ne h.1 h.2
  · rintro ⟨w, i⟩
    rw [List.mem_map]
    constructor
    · rintro ⟨v, hv, hplaced⟩
      obtain ⟨hlisted, hstarts⟩ := mem_startingWith.mp hv
      obtain ⟨j, hj⟩ := exists_find? hlisted
      rw [placed, hj] at hplaced
      obtain ⟨rfl, rfl⟩ := Prod.mk.inj hplaced
      exact ⟨find?_eq_some_iff.mp hj, hstarts⟩
    · rintro ⟨hword, hstarts⟩
      refine ⟨w, mem_startingWith.mpr ⟨⟨i, hword⟩, hstarts⟩, ?_⟩
      rw [placed, find?_eq_some_iff.mpr hword]
      rfl

/-- A single word starts with a key if it starts the words of just one place. -/
theorem startingWith_eq_singleton_iff {key w : String} : l.startingWith key = [w] ↔
    ∃ i, l.word i = w ∧ ∀ j, key.toList <+: (l.word j).toList ↔ j = i := by
  constructor
  · intro h
    have hmem : ∀ v, v ∈ l.startingWith key ↔ v = w := by simp [h]
    obtain ⟨⟨i, hi⟩, -⟩ := mem_startingWith.mp ((hmem w).mpr rfl)
    refine ⟨i, hi, fun j => ?_⟩
    have hj := hmem (l.word j)
    rw [mem_startingWith, ← hi, (word_injective l).eq_iff] at hj
    rw [← hj, and_iff_right ⟨j, rfl⟩]
  · rintro ⟨i, rfl, honly⟩
    refine List.perm_singleton.mp ((List.perm_ext_iff_of_nodup (l.nodup_startingWith key)
      (List.nodup_singleton _)).mpr fun v => ?_)
    rw [mem_startingWith, List.mem_singleton]
    constructor
    · rintro ⟨⟨j, rfl⟩, hstarts⟩
      rw [(honly j).mp hstarts]
    · rintro rfl
      exact ⟨⟨i, rfl⟩, (honly i).mpr rfl⟩

theorem not_exists_only {key : String} {i j : WordIndex} (hij : i ≠ j)
    (hi : key.toList <+: (l.word i).toList) (hj : key.toList <+: (l.word j).toList) :
    ¬ ∃ k, ∀ m, key.toList <+: (l.word m).toList ↔ m = k := by
  rintro ⟨k, honly⟩
  exact hij (((honly i).mp hi).trans ((honly j).mp hj).symm)

/-- **Suggestions are exact.** For what was typed the first of all words that start with it are suggested,
in code-point order and with their places, as many as are asked for, and none if nothing was typed. What
was typed is completed to the only word that starts with it; if there are more of them or none, it is
completed to itself if it is listed, and to nothing else. -/
theorem search_suggests (l : WordList) (typed : String) :
    let key := normalizeWord typed
    (∃ entries, l.Suggests key entries ∧
      ∀ limit : ℤ, l.search typed limit = if key = "" then [] else entries.take (max limit 0).toNat) ∧
    (∀ i, (∀ j, key.toList <+: (l.word j).toList ↔ j = i) → l.complete typed = some (l.word i)) ∧
    ((¬ ∃ i, ∀ j, key.toList <+: (l.word j).toList ↔ j = i) →
      ((∃ i, l.word i = key) → l.complete typed = some key) ∧
      ((¬ ∃ i, l.word i = key) → l.complete typed = none)) := by
  intro key
  refine ⟨⟨_, l.suggests_placed key, fun limit => ?_⟩, fun i honly => ?_, fun hnot => ?_⟩
  · by_cases hne : key = ""
    · rw [if_pos hne, search]
      simp [key, hne]
    · have hlimit : (max limit 0).toNat = limit.toNat := by omega
      rw [if_neg hne, search_eq_map rfl hne, hlimit]
  · have hne : key ≠ "" := by
      intro hempty
      have hall : ∀ j, j = i := fun j => (honly j).mp (by simp [hempty])
      exact absurd ((hall 0).trans (hall 1).symm) (by decide)
    exact complete_of_unique rfl hne (startingWith_eq_singleton_iff.mpr ⟨i, rfl, honly⟩)
  · have hseveral : ∀ w, l.startingWith key ≠ [w] := by
      intro w hw
      obtain ⟨i, -, honly⟩ := startingWith_eq_singleton_iff.mp hw
      exact hnot ⟨i, honly⟩
    refine ⟨fun hlisted => complete_of_listed rfl hlisted hseveral, fun hunlisted => ?_⟩
    have hnone : l.find? key = none := by
      rw [Option.eq_none_iff_forall_ne_some]
      exact fun i hi => hunlisted ⟨i, find?_eq_some_iff.mp hi⟩
    rw [complete_of_not_unique rfl hseveral, hnone]
    rfl

/-- What is typed with a blank and capitals, and a word that others start with. -/
theorem search_suggests_english : normalizeWord " AB" = "ab" ∧ normalizeWord "Act" = "act" ∧
    (∃ entries, english.Suggests "ab" entries ∧ ("abandon", 0) ∈ entries ∧ ("ability", 1) ∈ entries ∧
      english.search " AB" 3 = entries.take 3 ∧ english.search " AB" (-1) = []) ∧
    english.complete " AB" = none ∧ english.complete "Act" = some "act" := by
  have hab : normalizeWord " AB" = "ab" := by decide
  have hact : normalizeWord "Act" = "act" := by decide
  have habandon : english.word 0 = "abandon" := rfl
  have hability : english.word 1 = "ability" := rfl
  have hword : english.word 19 = "act" := rfl
  have haction : english.word 20 = "action" := rfl
  have hstarts : "ab".toList <+: "abandon".toList ∧ "ab".toList <+: "ability".toList ∧
      "act".toList <+: "act".toList ∧ "act".toList <+: "action".toList := by decide
  obtain ⟨habandon', hability', hword', haction'⟩ := hstarts
  obtain ⟨⟨entries, hentries, hsearch⟩, -, hothers⟩ := search_suggests english " AB"
  obtain ⟨-, -, hlisted⟩ := search_suggests english "Act"
  rw [hab] at hentries hsearch hothers
  rw [hact] at hlisted
  refine ⟨hab, hact, ⟨entries, hentries, (hentries.mem_iff _).mpr ⟨habandon, habandon'⟩,
    (hentries.mem_iff _).mpr ⟨hability, hability'⟩, hsearch 3, hsearch (-1)⟩, ?_, ?_⟩
  · have hunlisted : "ab" ∉ "abandon" :: englishWords.tail := by
      have hkeys : (alphabeticKey "abandon" :: englishWords.tail.map alphabeticKey).Pairwise (· < ·) :=
        pairwise_of_ascends ascends_englishWords
      rw [List.mem_cons, not_or]
      refine ⟨by decide, fun h => ?_⟩
      exact absurd (List.rel_of_pairwise_cons hkeys (List.mem_map_of_mem h)) (by decide)
    have hseveral := not_exists_only (i := 0) (j := 1) (by decide) (habandon ▸ habandon')
      (hability ▸ hability')
    exact (hothers hseveral).2 fun ⟨i, hi⟩ => hunlisted (hi ▸ word_mem_englishWords i)
  · have hseveral := not_exists_only (i := 19) (j := 20) (by decide) (hword ▸ hword')
      (haction ▸ haction')
    exact (hlisted hseveral).1 ⟨19, hword⟩

end Airgap.WordList
