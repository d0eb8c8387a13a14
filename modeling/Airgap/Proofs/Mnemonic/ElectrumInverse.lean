import Airgap.Proofs.Mnemonic.Seed

/-!
# Electrum phrases from their own entropy

Unlike BIP39, Electrum makes a phrase by a search, and reads the number of words off the size of the
entropy. A phrase that decodes is found again from its entropy at once.

* `exists_number_of_decode`: what decodes is the phrase of a number, and the bytes hold that number.
* `generate_ofNat`: a search that starts at a good number stops there.
* `generate_decode`: making a phrase undoes decoding; different words decode to different bytes.
-/

namespace Airgap.Mnemonic

theorem ofWords_words (m : Mnemonic) : ofWords m.words m.scheme = m :=
  eq_of_words (map_normalizeWord m) rfl

namespace Electrum

variable {l : WordList} {v : SeedVersion} {n x : ℕ} {p q : Input} {m : Mnemonic} {data : Bytes}

theorem toNat_ofNat_entropy (hx : x < 2 ^ (11 * n)) :
    Bytes.toNat (Bytes.ofNat ((11 * n + 7) / 8) x) = x :=
  Bytes.toNat_ofNat_of_lt <|
    lt_of_lt_of_le hx (Nat.le_of_dvd (Bytes.capacity_pos _) (phrases_dvd_capacity n))

/-- An input that decodes stands for the words of a number, and the bytes hold that number. -/
theorem exists_number_of_decode (h : decode l p = .ok data) :
    ∃ m x, p.mnemonic .electrum = .ok m ∧ m.words.length ∈ wordCounts ∧
      m.words = l.wordsOf m.words.length x ∧ x < 2 ^ (11 * m.words.length) ∧
      data = Bytes.ofNat ((11 * m.words.length + 7) / 8) x := by
  obtain ⟨m, hm, h⟩ := bind_eq_ok.mp h
  obtain ⟨hcount, is, -, his, -, rfl⟩ := exists_places_of_decodeMnemonic h
  have hlt := WordList.numeral_lt_of_indices his
  rw [phrases_eq] at hlt
  exact ⟨m, _, hm, hcount, WordList.eq_wordsOf (map_normalizeWord m) his, hlt, rfl⟩

theorem words_of_decode (hm : p.mnemonic .electrum = .ok m) (h : decode l p = .ok data) :
    m.words = l.wordsOf (8 * data.length / 11) (Bytes.toNat data) := by
  rw [decode, hm, ok_bind] at h
  exact (of_decodeMnemonic h).1

theorem good_of_seedVersion (hm : p.mnemonic .electrum = .ok m) (hwords : m.words = l.wordsOf n x)
    (hversion : seedVersion l p = .ok (some v))
    (hrejects : Bip39.accepts l (.phrase m.phrase) = false) : Good l v n x := by
  have hphrase : m.phrase = phraseOf l n x := by rw [Mnemonic.phrase, phraseOf, hwords]
  rw [seedVersion, hm, ok_bind, wordsVersion, bind_eq_ok] at hversion
  obtain ⟨-, -, hversion⟩ := hversion
  rw [hphrase] at hversion hrejects
  exact ⟨List.find?_some (Except.ok.inj hversion), hrejects⟩

/-- A search that starts at a good number stops there. -/
theorem generate_ofNat (hv : v = .standard ∨ v = .segwit) (hn : n ∈ wordCounts)
    (hx : x < 2 ^ (11 * n)) (hgood : Good l v n x) {count : Option ℤ}
    (hcount : count = none ∨ count = some (n : ℤ)) :
    generate l v (Bytes.ofNat ((11 * n + 7) / 8) x) count =
      .ok (ofWords (l.wordsOf n x) .electrum, 0) := by
  have hlength : (Bytes.ofNat ((11 * n + 7) / 8) x).length = (11 * n + 7) / 8 :=
    Bytes.length_ofNat _ _
  have hfits : Fits (Bytes.ofNat ((11 * n + 7) / 8) x) count n := by
    rcases hcount with rfl | rfl
    · exact ⟨hn, .inl ⟨rfl, hlength⟩⟩
    · exact ⟨hn, .inr ⟨rfl, hlength.ge⟩⟩
  have hstart : start n (Bytes.ofNat ((11 * n + 7) / 8) x) = x := by
    rw [start, toNat_ofNat_entropy hx, Nat.mod_eq_of_lt hx]
  have hgenerate := generate_eq_ok l hv hfits hstart.le hx hgood fun y hy hlt => by omega
  rwa [hstart, Nat.sub_self] at hgenerate

/-- **Making a phrase undoes decoding.** What decodes gives as many bytes as its words need, with spare
bits that are zero. If its version is one that is made here and BIP39 refuses its phrase, the bytes lead
back to its words at once, whether or not the number of words is given. Different words decode to
different bytes. -/
theorem generate_decode (h : decode l p = .ok data) :
    ∃ m, p.mnemonic .electrum = .ok m ∧
      (∀ v, seedVersion l p = .ok (some v) → v = .standard ∨ v = .segwit →
        Bip39.accepts l (.phrase m.phrase) = false →
        generate l v data none = .ok (m, 0) ∧ generate l v data (some m.words.length) = .ok (m, 0)) ∧
      data.length = (11 * m.words.length + 7) / 8 ∧
      Bytes.toNat data < 2 ^ (11 * m.words.length) ∧
      ∀ q m' data', q.mnemonic .electrum = .ok m' → decode l q = .ok data' → m'.words ≠ m.words →
        data' ≠ data := by
  obtain ⟨m, x, hm, hcount, hwords, hx, rfl⟩ := exists_number_of_decode h
  have hsame : ofWords (l.wordsOf m.words.length x) .electrum = m := by
    rw [← hwords, ← Input.scheme_of_mnemonic hm, ofWords_words]
  refine ⟨m, hm, fun v hversion hv hrejects => ?_, Bytes.length_ofNat _ _, ?_, ?_⟩
  · have hgood := good_of_seedVersion hm hwords hversion hrejects
    have hnone := generate_ofNat hv hcount hx hgood (.inl rfl)
    have hsome := generate_ofNat hv hcount hx hgood (.inr rfl)
    rw [hsame] at hnone hsome
    exact ⟨hnone, hsome⟩
  · rwa [toNat_ofNat_entropy hx]
  · rintro q m' data' hm' hq hne rfl
    exact hne ((words_of_decode hm' hq).trans (words_of_decode hm h).symm)

/-! ## A phrase of the standard version -/

theorem hasTag_around :
    hasTag (versionHash (phraseOf .english 12 97)) .standard = true := by
  rw [versionHash, phraseOf, (isEnglish_wordsOf 12 97).electrumNormalize_phrase]
  decide +kernel

theorem rejects_around : Bip39.accepts .english (.phrase (phraseOf .english 12 97)) = false := by
  have hindices := WordList.spelled_english.indices_wordsOf 12 97
  have hwords : Bip39.decodeWords .english (WordList.english.wordsOf 12 97) =
      .error .bip39Checksum := by
    rw [Bip39.decodeWords_eq .english (w := 4) (by decide) (by decide) rfl, hindices, ok_bind,
      numeral_placesOf]
    set_option maxRecDepth 20000 in decide
  rw [phraseOf, (isEnglish_wordsOf 12 97).accepts_phrase (List.cons_ne_nil _ _), hwords]
  rfl

/-- Eleven times the first word, and `around`. -/
theorem generate_decode_around :
    let m := ofWords (WordList.english.wordsOf 12 97) .electrum
    let data : Bytes := List.replicate 16 0 ++ [97]
    decode .english (.ready m) = .ok data ∧
      seedVersion .english (.ready m) = .ok (some .standard) ∧
      Bip39.accepts .english (.phrase m.phrase) = false ∧
      generate .english .standard data none = .ok (m, 0) ∧
      generate .english .standard data (some 12) = .ok (m, 0) := by
  intro m data
  have hl := WordList.spelled_english
  have hversion := versionOf_eq (.inl rfl) hasTag_around
  have hdecode : decode .english (.ready m) = .ok data :=
    decode_ofWords hl (by decide) (by decide) hversion
  have hseed : seedVersion .english (.ready m) = .ok (some .standard) := by
    rw [seedVersion_ofWords hl, hversion]
  have hrejects : Bip39.accepts .english (.phrase m.phrase) = false := by
    rw [phrase_ofWords hl]
    exact rejects_around
  obtain ⟨m', hm', hmade, -⟩ := generate_decode hdecode
  obtain rfl := Except.ok.inj ((mnemonic_ofWords _ _).symm.trans hm')
  obtain ⟨hnone, hsome⟩ := hmade .standard hseed (.inl rfl) hrejects
  have hcount : m.words.length = 12 := by rw [hl.words_ofWords, WordList.length_wordsOf]
  rw [hcount] at hsome
  exact ⟨hdecode, hseed, hrejects, hnone, hsome⟩

end Electrum

end Airgap.Mnemonic
