import Airgap.Proofs.WordList.Search
import Airgap.WordList.Audit
import Mathlib.Data.List.Nodup

/-!
# A list that passes the audit is fit for stamped backups

* `Fit`: what the audit looks for, and `passes_iff`: it passes exactly the lists that are fit.
* `Fit.complete_stem`: in a fit list the first four letters of a word are completed to the word.
* `fit_englishWords`: the English list is fit, since its stems ascend.
* `passes_recovers`: words are recovered from their stamped letters.
-/

namespace Airgap.WordList

open Mnemonic (normalizeWord)

/-- A list of 2048 words of lower-case letters in strictly increasing order, no two of which agree in
their first four letters. -/
structure Fit (ws : List String) : Prop where
  length_eq : ws.length = wordCount
  plain : ∀ w ∈ ws, w ≠ "" ∧ ∀ c ∈ w.toList, 'a' ≤ c ∧ c ≤ 'z'
  increasing : ws.Pairwise (· < ·)
  apart : ws.Pairwise (stem · ≠ stem ·)

/-! ## The checks -/

variable {ws : List String}

theorem isPlain_iff {w : String} :
    isPlain w = true ↔ w ≠ "" ∧ ∀ c ∈ w.toList, 'a' ≤ c ∧ c ≤ 'z' := by
  simp [isPlain]

theorem inOrder_iff : inOrder ws = true ↔ ws.Pairwise (· ≤ ·) := by
  rw [← List.isChain_iff_pairwise]
  fun_induction inOrder ws with
  | case1 a b ws ih => rw [Bool.and_eq_true, notAfter_iff, ih, List.isChain_cons_cons]
  | case2 ws h =>
    cases ws with
    | nil => simp
    | cons a ws =>
      cases ws with
      | nil => simp
      | cons b ws => exact absurd rfl (h a b ws)

theorem firsts_eq_nil_iff : firsts ws = [] ↔ ws = [] := by
  constructor
  · intro h
    refine List.eq_nil_iff_forall_not_mem.mpr fun w hw => ?_
    have hmem : w ∈ firsts ws := List.mem_eraseDups.mpr hw
    simp [h] at hmem
  · rintro rfl
    rfl

theorem duplicates_eq_nil_iff : (Audit.ofWords ws).duplicates = [] ↔ ws.Nodup := by
  have hlength : (Audit.ofWords ws).duplicates = [] ↔ firsts (ws.filter fun w => 1 < ws.count w) = [] := by
    rw [← List.length_eq_zero_iff, ← List.length_eq_zero_iff, Audit.ofWords, List.length_mergeSort]
  rw [hlength, firsts_eq_nil_iff, List.filter_eq_nil_iff, List.nodup_iff_count_le_one]
  constructor
  · intro h w
    by_cases hw : w ∈ ws
    · have := h w hw
      simp at this
      omega
    · simp [List.count_eq_zero_of_not_mem hw]
  · intro h w _
    have := h w
    simp
    omega

theorem sharedStems_eq_nil_iff : Audit.sharedStems ws = [] ↔ (ws.map stem).Nodup := by
  have hcount (s : String) : ((ws.map fun w => (stem w, w)).filter (·.1 == s)).length =
      (ws.map stem).count s := by
    rw [← List.countP_eq_length_filter, List.countP_map, List.count, List.countP_map]
    rfl
  rw [Audit.sharedStems, List.filterMap_eq_nil_iff, List.nodup_iff_count_le_one]
  have hstems : (ws.map fun w => (stem w, w)).map (·.1) = ws.map stem := by simp
  rw [hstems]
  constructor
  · intro h s
    by_cases hs : s ∈ ws.map stem
    · have hnone := h s (List.mem_eraseDups.mpr hs)
      rw [← hcount]
      split at hnone
      · cases hnone
      · rename_i hfew
        match hentries : (ws.map fun w => (stem w, w)).filter (·.1 == s) with
        | [] => simp [hentries]
        | [e] => simp [hentries]
        | e :: e' :: es => exact absurd hentries (hfew e e' es)
    · simp [List.count_eq_zero_of_not_mem hs]
  · intro h s _
    have hle := h s
    rw [← hcount] at hle
    split
    · rename_i a b more hentries
      rw [hentries] at hle
      simp at hle
    · rfl

/-- **The audit passes exactly the lists that are fit.** -/
theorem passes_iff : (Audit.ofWords ws).passes = true ↔ Fit ws := by
  have hchecks : (Audit.ofWords ws).passes = true ↔ ws.length = wordCount ∧ ws.Nodup ∧
      ws.Pairwise (· ≤ ·) ∧ (∀ w ∈ ws, isPlain w = true) ∧ (ws.map stem).Nodup := by
    rw [← duplicates_eq_nil_iff, ← inOrder_iff, ← sharedStems_eq_nil_iff]
    simp [Audit.passes, Audit.checks, Audit.ofWords]
  rw [hchecks]
  constructor
  · rintro ⟨hlength, hnodup, hordered, hplain, hstems⟩
    refine ⟨hlength, fun w hw => isPlain_iff.mp (hplain w hw), ?_, List.pairwise_map.mp hstems⟩
    exact hordered.imp₂ (fun a b hab hne => lt_of_le_of_ne hab hne) hnodup
  · rintro ⟨hlength, hplain, hincreasing, hapart⟩
    exact ⟨hlength, hincreasing.imp ne_of_lt, hincreasing.imp le_of_lt,
      fun w hw => isPlain_iff.mpr (hplain w hw), List.pairwise_map.mpr hapart⟩

/-! ## Stamped letters -/

theorem toList_stem (w : String) : (stem w).toList = w.toList.take stemLength := String.toList_ofList

theorem mem_startingWith_stem {l : WordList} {w : String} (hw : ∃ i, l.word i = w) :
    w ∈ l.startingWith (stem w) := by
  refine mem_startingWith.mpr ⟨hw, ?_⟩
  rw [toList_stem]
  exact List.take_prefix _ _

namespace Fit

variable (hfit : Fit ws)

include hfit

theorem normalizeWord_eq {w : String} (hw : w ∈ ws) : normalizeWord w = w :=
  Mnemonic.normalizeWord_eq_self (hfit.plain w hw).2

theorem normalizeWord_stem {w : String} (hw : w ∈ ws) : normalizeWord (stem w) = stem w := by
  refine Mnemonic.normalizeWord_eq_self fun c hc => (hfit.plain w hw).2 c ?_
  rw [toList_stem] at hc
  exact List.mem_of_mem_take hc

theorem stem_ne_empty {w : String} (hw : w ∈ ws) : stem w ≠ "" := by
  intro h
  have htake : w.toList.take stemLength = [] := by
    rw [← toList_stem, h]
    rfl
  rcases List.take_eq_nil_iff.mp htake with hzero | hnil
  · cases hzero
  · exact (hfit.plain w hw).1 (String.toList_eq_nil_iff.mp hnil)

/-- Two words with the same stem are one. -/
theorem eq_of_stem_eq {v w : String} (hv : v ∈ ws) (hw : w ∈ ws) (h : stem v = stem w) : v = w :=
  List.inj_on_of_nodup_map (List.pairwise_map.mpr hfit.apart) hv hw h

/-- A word of four letters or more is the only one that starts with its stem. -/
theorem eq_of_startsWith_stem {v w : String} (hv : v ∈ ws) (hw : w ∈ ws)
    (hlong : stemLength ≤ w.toList.length) (h : (stem w).toList <+: v.toList) : v = w := by
  refine hfit.eq_of_stem_eq hv hw (String.toList_inj.mp ?_)
  have hlength : (stem w).toList.length = stemLength := by
    rw [toList_stem, List.length_take]
    omega
  rw [toList_stem v, ← hlength]
  exact (List.prefix_iff_eq_take.mp h).symm

variable {l : WordList} (hl : l.words.toList = ws)

include hl

theorem startingWith_stem {w : String} (hw : w ∈ ws) (hlong : stemLength ≤ w.toList.length) :
    l.startingWith (stem w) = [w] := by
  have hmem := mem_startingWith_stem (mem_toList.mp (hl ▸ hw))
  by_contra hne
  rcases ((l.nodup_startingWith (stem w)).ne_singleton_iff w).mp hne with hnil | ⟨v, hv, hvw⟩
  · rw [hnil] at hmem
    exact absurd hmem List.not_mem_nil
  · obtain ⟨hv, hstarts⟩ := mem_startingWith.mp hv
    exact hvw (hfit.eq_of_startsWith_stem (hl ▸ mem_toList.mpr hv) hw hlong hstarts)

/-- **The first four letters of a word are completed to it**, also where a short word is all of its stem
and others start with it. -/
theorem complete_stem {w : String} (hw : w ∈ ws) : l.complete (stem w) = some w := by
  have hkey := hfit.normalizeWord_stem hw
  have hne := hfit.stem_ne_empty hw
  have hlisted : ∃ i, l.word i = w := mem_toList.mp (hl ▸ hw)
  by_cases hlong : stemLength ≤ w.toList.length
  · exact complete_of_unique hkey hne (hfit.startingWith_stem hl hw hlong)
  · have hstem : stem w = w := by
      rw [stem, List.take_of_length_le (by omega), String.ofList_toList]
    by_cases hsingle : ∃ v, l.startingWith (stem w) = [v]
    · obtain ⟨v, hv⟩ := hsingle
      have hmem := mem_startingWith_stem hlisted
      rw [hv, List.mem_singleton] at hmem
      rw [complete_of_unique hkey hne hv, hmem]
    · rw [← hstem] at hlisted
      have hcomplete := complete_of_listed hkey hlisted fun v hv => hsingle ⟨v, hv⟩
      rw [hcomplete, hstem]

theorem index_eq {i : WordIndex} {w : String} (hw : ws[i.val]? = some w) (position : Option ℤ) :
    l.index w position = .ok i := by
  have hmem : w ∈ ws := List.mem_of_getElem? hw
  have hword : l.word i = w := by
    rw [← hl, Vector.getElem?_toList, Vector.getElem?_eq_getElem i.isLt] at hw
    exact Option.some.inj hw
  have hfound : l.lookup? w = some i := by
    rw [lookup?_eq_some_iff, hfit.normalizeWord_eq hmem, hword]
  rw [index, hfound]

/-- A phrase is recovered from its stamped letters. -/
theorem mapM_complete_stem {phrase : List String} (h : ∀ w ∈ phrase, w ∈ ws) :
    (phrase.map stem).mapM l.complete = some phrase := by
  induction phrase with
  | nil => rfl
  | cons w phrase ih =>
    have hw := hfit.complete_stem hl (h w List.mem_cons_self)
    have hrest := ih fun v hv => h v (List.mem_cons_of_mem w hv)
    simp [hw, hrest]

end Fit

/-- **A list that passes the audit is safe**: it has 2048 different words in order that differ in their
first four letters, it is accepted as a word list, each word is found at its place, and from the first
four letters of each word of a phrase the phrase is recovered. -/
theorem passes_recovers (h : (Audit.ofWords ws).passes = true) :
    Fit ws ∧ ∀ language, ∃ l : WordList, WordList.ofWords language ws = .ok l ∧ l.words.toList = ws ∧
      (∀ (i : WordIndex) w position, ws[i.val]? = some w → l.index w position = .ok i) ∧
      (∀ w ∈ ws, l.complete (stem w) = some w) ∧
      ∀ phrase : List String, (∀ w ∈ phrase, w ∈ ws) →
        (phrase.map stem).mapM l.complete = some phrase := by
  have hfit := passes_iff.mp h
  refine ⟨hfit, fun language => ?_⟩
  have hnodup : ws.Nodup := hfit.increasing.imp ne_of_lt
  refine ⟨⟨language, ⟨ws.toArray, by rw [List.size_toArray, hfit.length_eq]⟩, hnodup⟩, ?_, rfl,
    ?_, ?_, ?_⟩
  · rw [WordList.ofWords, dif_pos hfit.length_eq, dif_pos hnodup]
  · intro i w position hw
    exact hfit.index_eq rfl hw position
  · intro w hw
    exact hfit.complete_stem rfl hw
  · intro phrase hphrase
    exact hfit.mapM_complete_stem rfl hphrase

/-! ## The English list -/

/-- The bytes of a word. -/
def byteCodes (w : String) : List ℕ := w.toByteArray.data.toList.map UInt8.toNat

/-- The bytes of the stems of the English words. -/
def stemCodes : List (List ℕ) := englishWords.map fun w => (byteCodes w).take stemLength

theorem ascends_stemCodes : (stemCodes.zip stemCodes.tail).all (fun p => p.1 < p.2) = true := by
  decide +kernel

theorem isChain_of_zip_tail {α : Type*} {R : α → α → Prop} {xs : List α}
    (h : ∀ p ∈ xs.zip xs.tail, R p.1 p.2) : xs.IsChain R := by
  induction xs with
  | nil => exact List.isChain_nil
  | cons a xs ih =>
    cases xs with
    | nil => exact List.isChain_singleton a
    | cons b xs =>
      have hrest : (b :: xs).IsChain R := ih fun p hp => h p (List.mem_cons_of_mem _ hp)
      exact List.isChain_cons_cons.mpr ⟨h (a, b) List.mem_cons_self, hrest⟩

theorem pairwise_stemCodes : stemCodes.Pairwise (· < ·) := by
  refine List.isChain_iff_pairwise.mp (isChain_of_zip_tail fun p hp => ?_)
  exact of_decide_eq_true (List.all_eq_true.mp ascends_stemCodes p hp)

theorem take_le_take {α : Type*} [LinearOrder α] {a b : List α} (n : ℕ) (h : a ≤ b) :
    a.take n ≤ b.take n := by
  induction n generalizing a b with
  | zero => rfl
  | succ n ih =>
    cases a with
    | nil => exact prefix_le List.nil_prefix
    | cons x a =>
      cases b with
      | nil => exact absurd List.Lex.nil (not_lt.mpr h)
      | cons y b =>
        rw [List.take_succ_cons, List.take_succ_cons, cons_le_cons_iff]
        rcases cons_le_cons_iff.mp h with hxy | ⟨hxy, hab⟩
        · exact .inl hxy
        · exact .inr ⟨hxy, ih hab⟩

/-- Characters are in the order of their codes. -/
theorem lt_of_map_toNat_lt {a b : List Char} (h : a.map Char.toNat < b.map Char.toNat) : a < b := by
  rcases lt_trichotomy a b with hab | rfl | hba
  · exact hab
  · exact absurd h (lt_irrefl _)
  · have hcodes := List.map_lt (f := Char.toNat) (fun _ _ hxy => hxy) hba
    exact absurd h (lt_asymm hcodes)

/-- A word of letters has a byte for each. -/
theorem byteCodes_eq {w : String} (h : ∀ c ∈ w.toList, 'a' ≤ c ∧ c ≤ 'z') :
    byteCodes w = w.toList.map Char.toNat := by
  have hbyte : ∀ c ∈ w.toList, (String.utf8EncodeChar c).map UInt8.toNat = [c.toNat] := by
    intro c hc
    have hascii : c.val.toNat ≤ 127 := Nat.le_trans (h c hc).2 (by decide)
    have hsize : c.utf8Size = 1 := Char.utf8Size_eq_one_iff.mpr hascii
    have hcode : c.val.toUInt8.toNat = c.toNat := by
      rw [UInt32.toNat_toUInt8]
      exact Nat.mod_eq_of_lt (by omega)
    rw [String.utf8EncodeChar_eq_singleton hsize, List.map_singleton, hcode]
  rw [byteCodes, ← String.utf8Encode_toList, List.utf8Encode, List.toList_data_toByteArray,
    List.map_flatMap, List.flatMap_congr hbyte, ← List.map_eq_flatMap]

theorem plain_of_mem_englishWords {w : String} (hw : w ∈ englishWords) :
    w ≠ "" ∧ ∀ c ∈ w.toList, 'a' ≤ c ∧ c ≤ 'z' := by
  have hbytes := List.all_eq_true.mp letters_englishWords w hw
  simp only [List.all_eq_true, Bool.and_eq_true, decide_eq_true_eq] at hbytes
  refine ⟨fun h => empty_notMem_englishWords (h ▸ hw), fun c hc => ?_⟩
  exact letter_of_mem_toList hbytes hc

/-- **The English list is fit.** -/
theorem fit_englishWords : Fit englishWords := by
  have hcodes : ∀ w ∈ englishWords,
      (byteCodes w).take stemLength = (w.toList.take stemLength).map Char.toNat := by
    intro w hw
    rw [byteCodes_eq (plain_of_mem_englishWords hw).2, List.map_take]
  have hstems : englishWords.Pairwise fun v w =>
      v.toList.take stemLength < w.toList.take stemLength := by
    refine (List.pairwise_map.mp pairwise_stemCodes).imp_of_mem fun hv hw h => ?_
    rw [hcodes _ hv, hcodes _ hw] at h
    exact lt_of_map_toNat_lt h
  refine ⟨length_englishWords, fun w hw => plain_of_mem_englishWords hw, ?_, ?_⟩
  · refine hstems.imp fun {v w} h => String.lt_iff_toList_lt.mpr (not_le.mp fun hle => ?_)
    exact absurd h (not_lt.mpr (take_le_take stemLength hle))
  · refine hstems.imp fun {v w} h hsame => ?_
    rw [← toList_stem, ← toList_stem, hsame] at h
    exact lt_irrefl _ h

/-- A phrase of the English list is recovered from its stamped letters. -/
theorem passes_recovers_english : (Audit.ofWords englishWords).passes = true ∧
    ∃ l : WordList, WordList.ofWords "english" englishWords = .ok l ∧
      ["aban", "act", "acti", "afra"].mapM l.complete =
        some ["abandon", "act", "action", "afraid"] := by
  have hpasses : (Audit.ofWords englishWords).passes = true := passes_iff.mpr fit_englishWords
  obtain ⟨-, hsafe⟩ := passes_recovers hpasses
  obtain ⟨l, hl, -, -, -, hrecovers⟩ := hsafe "english"
  have hlisted : ∀ w ∈ ["abandon", "act", "action", "afraid"], w ∈ englishWords := by decide
  have hstems : ["abandon", "act", "action", "afraid"].map stem = ["aban", "act", "acti", "afra"] := by
    decide
  refine ⟨hpasses, l, hl, ?_⟩
  rw [← hstems]
  exact hrecovers _ hlisted

end Airgap.WordList
