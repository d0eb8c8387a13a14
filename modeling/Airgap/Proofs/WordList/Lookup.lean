import Airgap.Mnemonic.Codec
import Airgap.Proofs.Mnemonic.Bip39

/-!
# Looking up many words

* `indices_eq`: words are looked up one after the other as they are all at once, up to the first that is
  not listed.
* `resolve_eq_iff`, `resolve_errors_eq_nil_iff`: what is found, and when nothing is missing.
* `lookup_word_iff`: the words of a list, and the words that a codec writes, are found again exactly if
  their spelling is listed; so in every spelled list. `exists_word_not_found` is a list with a capital.
-/

namespace Airgap.WordList

open Mnemonic (Codec normalizeWord normalizeWord_normalizeWord)

variable {l : WordList} {ws : List String}

/-! ## One word after the other -/

theorem contains_iff_exists {w : String} :
    l.contains w = true ↔ ∃ i, l.word i = normalizeWord w := by
  simp only [contains, Option.isSome_iff_exists, lookup?_eq_some_iff]

/-- Words are looked up one after the other as they are all at once, up to the first that is not
listed. -/
theorem indices_eq (l : WordList) (ws : List String) : l.indices ws =
    match (l.resolve ws).2 with
    | [] => .ok (l.resolve ws).1
    | (position, w) :: _ => .error (.unknownWord w (some position)) := by
  have hfound (p : String × ℕ) (i : WordIndex) (h : l.lookup? p.1 = some i) :
      l.index p.1 (some p.2) = .ok i := by rw [index, h]
  have hmissing (p : String × ℕ) (h : l.lookup? p.1 = none) :
      l.index p.1 (some p.2) = .error (.unknownWord p.1 (some p.2)) := by rw [index, h]
  rw [indices, mapM_zipIdx_eq hfound hmissing, resolve]
  cases (ws.zipIdx.filter fun p => (l.lookup? p.1).isNone) with
  | nil => rfl
  | cons p ps => rfl

theorem indices_cons_of_lookup?_eq_none {w : String} (h : l.lookup? w = none) (ws : List String) :
    l.indices (w :: ws) = .error (.unknownWord w (some 0)) := by
  rw [indices, List.zipIdx_cons, List.mapM_cons, index, h]
  rfl

theorem resolve_eq_iff {is : List WordIndex} :
    l.resolve ws = (is, []) ↔ is.map l.word = ws.map normalizeWord := by
  rw [← indices_eq_ok_iff, indices_eq]
  obtain ⟨found, missing⟩ := l.resolve ws
  cases missing with
  | nil => simp
  | cons p ps => simp

theorem resolve_errors_eq_nil_iff :
    (l.resolve ws).2 = [] ↔ ∀ w ∈ ws, l.contains w = true := by
  have hpositions : ∀ w, w ∈ ws ↔ ∃ p ∈ ws.zipIdx, p.1 = w := by
    intro w
    rw [← List.mem_map, List.zipIdx_map_fst]
  simp only [resolve, List.map_eq_nil_iff, List.filter_eq_nil_iff, hpositions, contains]
  constructor
  · rintro h w ⟨p, hp, rfl⟩
    have hfound := h p hp
    rwa [Bool.not_eq_true, Option.isNone_eq_false_iff] at hfound
  · intro h p hp
    rw [Bool.not_eq_true, Option.isNone_eq_false_iff]
    exact h p.1 ⟨p, hp, rfl⟩

/-! ## What a codec writes -/

theorem exists_wordsOf_of_generate {v : Mnemonic.SeedVersion} {entropy : Bytes} {count : Option ℤ}
    {m : Mnemonic} {passed : ℕ} (h : Mnemonic.Electrum.generate l v entropy count = .ok (m, passed)) :
    ∃ n x, m = Mnemonic.ofWords (l.wordsOf n x) .electrum := by
  rw [Mnemonic.Electrum.generate] at h
  split at h
  · exact nomatch h
  · obtain ⟨⟨n, used⟩, -, h⟩ := bind_eq_ok.mp h
    simp only at h
    split at h
    · rename_i x _ _
      obtain ⟨rfl, -⟩ := Prod.mk.inj (Except.ok.inj h)
      exact ⟨n, x, rfl⟩
    · exact nomatch h

/-- A mnemonic is written in the spellings of words of the list. -/
theorem exists_places_of_encode {c : Codec} {entropy : Bytes} {m : Mnemonic}
    (h : c.encode entropy = .ok m) :
    ∃ is : List WordIndex, m.words = is.map fun i => normalizeWord (c.words.word i) := by
  have hwords (count n : ℕ) (scheme : Mnemonic.Scheme) :
      (Mnemonic.ofWords (c.words.wordsOf count n) scheme).words =
        (Mnemonic.placesOf count n).map fun i => normalizeWord (c.words.word i) := List.map_map
  cases c with
  | bip39 l =>
    simp only [Codec.encode, Mnemonic.Bip39.encode] at h
    split at h
    · obtain rfl := Except.ok.inj h
      exact ⟨_, hwords _ _ _⟩
    · exact nomatch h
  | electrum l v =>
    rw [Codec.encode] at h
    cases hgenerate : Mnemonic.Electrum.generate l v entropy none with
    | error e =>
      rw [hgenerate] at h
      exact nomatch h
    | ok made =>
      rw [hgenerate, map_ok] at h
      obtain rfl := Except.ok.inj h
      obtain ⟨n, x, hm⟩ := exists_wordsOf_of_generate hgenerate
      rw [hm]
      exact ⟨_, hwords n x .electrum⟩

/-- **A word of a list is found again exactly if its spelling is listed**, at its own place exactly if
it has its spelling. What a codec writes is found again exactly if the spellings of the words that it
chose are listed, and in a spelled list at the very places. -/
theorem lookup_word_iff (l : WordList) :
    (∀ i, l.contains (l.word i) = true ↔ ∃ j, l.word j = normalizeWord (l.word i)) ∧
    (∀ i position, l.index (l.word i) position = .ok i ↔ normalizeWord (l.word i) = l.word i) ∧
    (∀ i, l.resolve [l.word i] = ([i], []) ↔ normalizeWord (l.word i) = l.word i) ∧
    ∀ (c : Codec) (entropy : Bytes) (m : Mnemonic), c.words = l → c.encode entropy = .ok m →
      ∃ is : List WordIndex, m.words = is.map (fun i => normalizeWord (l.word i)) ∧
        ((l.resolve m.words).2 = [] ↔ ∀ i ∈ is, ∃ j, l.word j = normalizeWord (l.word i)) ∧
        (l.Spelled → l.resolve m.words = (is, [])) := by
  refine ⟨fun i => contains_iff_exists, fun i position => ?_, fun i => ?_, ?_⟩
  · rw [index_eq_ok_iff, eq_comm]
  · rw [resolve_eq_iff, List.map_singleton, List.map_singleton, List.singleton_inj, eq_comm]
  · rintro c entropy m rfl h
    obtain ⟨is, his⟩ := exists_places_of_encode h
    refine ⟨is, his, ?_, fun hl => ?_⟩
    · rw [resolve_errors_eq_nil_iff, his]
      simp only [List.forall_mem_map, contains_iff_exists, normalizeWord_normalizeWord]
    · rw [resolve_eq_iff, his, List.map_map]
      refine List.map_congr_left fun i _ => ?_
      rw [Function.comp_apply, normalizeWord_normalizeWord]
      exact (hl i).symm

theorem lookup_word_iff_english : (Codec.bip39 english).words = english ∧ english.Spelled ∧
    ∃ m, (Codec.bip39 english).encode (List.replicate 16 0) = .ok m ∧
      (english.resolve m.words).2 = [] := by
  obtain ⟨-, -, -, hwritten⟩ := lookup_word_iff english
  have hm := Mnemonic.Bip39.encode_eq english (w := 4) (by decide) (by decide)
    (e := List.replicate 16 0) rfl
  obtain ⟨is, -, -, hplaces⟩ := hwritten (.bip39 english) (List.replicate 16 0) _ rfl hm
  exact ⟨rfl, spelled_english, _, hm, by rw [hplaces spelled_english]⟩

/-! ## A list with a capital -/

/-- The English words, the first with a capital. -/
def capitalizedWords : List String := "Abandon" :: englishWords.tail

theorem englishWords_eq_cons : englishWords = "abandon" :: englishWords.tail := rfl

theorem length_capitalizedWords : capitalizedWords.length = wordCount := by
  rw [capitalizedWords, List.length_cons, List.length_tail, length_englishWords]
  rfl

theorem nodup_capitalizedWords : capitalizedWords.Nodup := by
  refine List.nodup_cons.mpr ⟨fun h => ?_, nodup_englishWords.tail⟩
  have hletters := List.all_eq_true.mp letters_englishWords _ (List.mem_of_mem_tail h)
  have hcapital : ("Abandon".toByteArray.data.toList.all fun b =>
      97 ≤ b.toNat && b.toNat ≤ 122) = false := by decide
  rw [hcapital] at hletters
  exact Bool.false_ne_true hletters

/-- The list of these words. -/
def capitalized : WordList :=
  ⟨"custom", ⟨capitalizedWords.toArray, by rw [List.size_toArray, length_capitalizedWords]⟩,
    nodup_capitalizedWords⟩

theorem abandon_notMem_capitalizedWords : "abandon" ∉ capitalizedWords := by
  have hnodup := nodup_englishWords
  rw [englishWords_eq_cons, List.nodup_cons] at hnodup
  rw [capitalizedWords, List.mem_cons, not_or]
  exact ⟨by decide, hnodup.1⟩

theorem normalizeWord_Abandon : normalizeWord "Abandon" = "abandon" := by decide

/-- What has the spelling of the first word is not found. -/
theorem lookup?_capitalized {w : String} (hw : normalizeWord w = "abandon") :
    capitalized.lookup? w = none := by
  rw [Option.eq_none_iff_forall_ne_some]
  intro i hi
  have hlisted : capitalized.word i ∈ capitalizedWords :=
    Vector.mem_toList_iff.mpr (Vector.getElem_mem i.isLt)
  rw [lookup?_eq_some_iff.mp hi, hw] at hlisted
  exact abandon_notMem_capitalizedWords hlisted

/-- The first word of this list is not found, neither as it stands nor as a codec writes it. -/
theorem exists_word_not_found : ofWords "custom" capitalizedWords = .ok capitalized ∧
    capitalized.word 0 = "Abandon" ∧ capitalized.contains "Abandon" = false ∧
    capitalized.index "Abandon" none = .error (.unknownWord "Abandon" none) ∧
    capitalized.resolve ["Abandon"] = ([], [(0, "Abandon")]) ∧
    ∃ m, (Codec.bip39 capitalized).encode (List.replicate 16 0) = .ok m ∧
      (Codec.bip39 capitalized).decode (.ready m) = .error (.unknownWord "abandon" (some 0)) := by
  have hlist : ofWords "custom" capitalizedWords = .ok capitalized := by
    rw [ofWords, dif_pos length_capitalizedWords, dif_pos nodup_capitalizedWords]
    rfl
  have hcapital := lookup?_capitalized normalizeWord_Abandon
  have hm : (Codec.bip39 capitalized).encode (List.replicate 16 0) =
      .ok (Mnemonic.ofWords (capitalized.wordsOf 12 3) .bip39) := by
    have hpacked : Mnemonic.Bip39.packed 4 (List.replicate 16 0) = 3 := by
      set_option maxRecDepth 20000 in decide
    have hm := Mnemonic.Bip39.encode_eq capitalized (w := 4) (by decide) (by decide)
      (e := List.replicate 16 0) rfl
    rwa [hpacked] at hm
  refine ⟨hlist, rfl, ?_, ?_, ?_, _, hm, ?_⟩
  · rw [contains, hcapital]
    rfl
  · rw [index, hcapital]
  · simp [resolve, hcapital]
  · have hfirst : ∃ ws, capitalized.wordsOf 12 3 = "Abandon" :: ws := ⟨_, rfl⟩
    obtain ⟨ws, hws⟩ := hfirst
    have hcount : (("abandon" :: ws.map normalizeWord).length) = 3 * 4 := by
      rw [List.length_cons, List.length_map, ← capitalized.length_wordsOf (3 * 4) 3, hws,
        List.length_cons]
    have hspelled : capitalized.lookup? "abandon" = none := by
      apply lookup?_capitalized
      rw [← normalizeWord_Abandon, normalizeWord_normalizeWord]
    have hwords : (Mnemonic.ofWords ("Abandon" :: ws) .bip39).words =
        "abandon" :: ws.map normalizeWord := by
      rw [← normalizeWord_Abandon]
      rfl
    rw [hws, Codec.decode, Mnemonic.Bip39.decode, Mnemonic.mnemonic_ofWords, ok_bind, hwords,
      Mnemonic.Bip39.decodeWords_eq capitalized (by decide) (by decide) hcount,
      indices_cons_of_lookup?_eq_none hspelled, error_bind]

end Airgap.WordList
