import Airgap.Mnemonic.Codec
import Airgap.Proofs.Digest.Pbkdf2
import Airgap.Proofs.Mnemonic.Electrum
import Airgap.Proofs.Mnemonic.ElectrumForm
import Airgap.Proofs.Mnemonic.Phrase

/-!
# Seeds

The words of a mnemonic are a function of its entropy, and an English phrase is hashed as it stands; so
inputs with the same entropy lead to the same seed, however they are typed.

* `Inert`: characters that neither scheme touches, with `electrumForm_joinWords`.
* `IsEnglish.decomposed_phrase`, `IsEnglish.electrumNormalize_phrase`: what either scheme hashes of an
  English phrase is the phrase; `IsEnglish.splitPhrase_phrase`, it is split into its words.
* `Codec.wordsFor`: the words for some entropy, with `Codec.of_decode`.
* `Codec.seed_of_decode`: the seed depends only on the entropy and the passphrase.
-/

namespace Airgap.Mnemonic

open Text (joinWords decompose combiningClass isBlank lowerMap)

/-! ## Text that is hashed as it stands -/

/-- A character that the forms which are hashed leave alone: it is visible and neither decomposed nor
lowered, no mark and no ideograph. -/
structure Inert (c : Char) : Prop where
  isInvisible_eq : isInvisible c = false
  decompose_eq : decompose c = [c]
  lower_eq : lowerMap.apply c = [c]
  combiningClass_eq : combiningClass c = 0
  isIdeograph_eq : isIdeograph c = false

/-- Whether a code point is such a character. -/
def isInert (n : ℕ) : Bool :=
  Text.isPlain n && !Text.marks.testBit n && lowerMap.image n == [n] && !isIdeograph (Char.ofNat n)

theorem inert_of_isInert {c : Char} (h : isInert c.toNat = true) : Inert c := by
  simp only [isInert, Text.isPlain, Bool.and_eq_true, Bool.not_eq_true', beq_iff_eq,
    Char.ofNat_toNat] at h
  obtain ⟨⟨⟨⟨hatom, hinvisible⟩, hmark⟩, hlower⟩, hideograph⟩ := h
  have hdecompose := Text.decompose_of_isAtom hatom
  rw [Char.ofNat_toNat] at hdecompose
  refine ⟨hinvisible, hdecompose, ?_, Text.combiningClass_eq_zero hmark, hideograph⟩
  rw [Text.CaseMap.apply, hlower, List.map_singleton, Char.ofNat_toNat]

/-- Spaces and the letters from `a` to `z`. -/
theorem isInert_phrase : ((32 :: List.range' 97 26).all isInert) = true := by decide +kernel

theorem inert_space : Inert ' ' :=
  inert_of_isInert (List.all_eq_true.mp isInert_phrase 32 List.mem_cons_self)

theorem inert_letter {c : Char} (hlow : 97 ≤ c.toNat) (hhigh : c.toNat ≤ 122) : Inert c := by
  refine inert_of_isInert (List.all_eq_true.mp isInert_phrase _ (List.mem_cons_of_mem _ ?_))
  rw [List.mem_range'_1]
  omega

theorem Inert.bare {c : Char} (h : Inert c) : Bare c :=
  ⟨⟨h.isInvisible_eq, h.decompose_eq, h.lower_eq⟩, h.combiningClass_eq⟩

/-- Electrum leaves joined words of inert characters alone. -/
theorem electrumForm_joinWords {ws : List (List Char)} (hne : ∀ w ∈ ws, w ≠ [])
    (hblank : ∀ w ∈ ws, ∀ c ∈ w, isBlank c = false) (hinert : ∀ c ∈ joinWords ws, Inert c) :
    electrumForm (joinWords ws) = joinWords ws := by
  refine electrumForm_eq_self_iff.mpr ⟨fun c hc => (hinert c hc).bare,
    Text.singleSpaced_joinWords hne hblank, fun a s b hpart _ => .inl ?_⟩
  exact (hinert a (hpart.subset List.mem_cons_self)).isIdeograph_eq

/-! ## English phrases -/

section English

variable {ws : List String}

theorem toList_phrase (ws : List String) :
    (" ".intercalate ws).toList = joinWords (ws.map String.toList) := String.toList_intercalate

/-- The words are words of the English list, in its spelling. -/
def IsEnglish (ws : List String) : Prop := ∀ w ∈ ws, ∃ i, WordList.english.word i = w

theorem IsEnglish.letter (h : IsEnglish ws) : ∀ w ∈ ws.map String.toList, ∀ c ∈ w,
    97 ≤ c.toNat ∧ c.toNat ≤ 122 := by
  intro w hw c hc
  obtain ⟨v, hv, rfl⟩ := List.mem_map.mp hw
  obtain ⟨i, rfl⟩ := h v hv
  exact WordList.letter_of_mem_word hc

theorem IsEnglish.inert (h : IsEnglish ws) : ∀ c ∈ joinWords (ws.map String.toList), Inert c := by
  intro c hc
  rcases Text.eq_or_mem_of_mem_intercalate hc with rfl | ⟨w, hw, hc⟩
  · exact inert_space
  · obtain ⟨hlow, hhigh⟩ := h.letter w hw c hc
    exact inert_letter hlow hhigh

theorem IsEnglish.bare (h : IsEnglish ws) : ∀ c ∈ joinWords (ws.map String.toList), Bare c :=
  fun c hc => (h.inert c hc).bare

theorem IsEnglish.decomposed_phrase (h : IsEnglish ws) :
    decomposed (" ".intercalate ws) = " ".intercalate ws := by
  rw [decomposed, onString, toList_phrase, nfkd_of_bare h.bare, ← toList_phrase, String.ofList_toList]

theorem IsEnglish.ne_nil (h : IsEnglish ws) : ∀ w ∈ ws.map String.toList, w ≠ [] := by
  intro w hw hempty
  obtain ⟨v, hv, rfl⟩ := List.mem_map.mp hw
  obtain ⟨i, rfl⟩ := h v hv
  exact WordList.word_ne_empty i (String.toList_eq_nil_iff.mp hempty)

theorem IsEnglish.isBlank_eq (h : IsEnglish ws) : ∀ w ∈ ws.map String.toList, ∀ c ∈ w,
    isBlank c = false := by
  intro w hw c hc
  obtain ⟨hlow, hhigh⟩ := h.letter w hw c hc
  exact (settled_letter hlow hhigh).isBlank_eq

theorem IsEnglish.electrumNormalize_phrase (h : IsEnglish ws) :
    electrumNormalize (" ".intercalate ws) = " ".intercalate ws := by
  rw [electrumNormalize, onString, toList_phrase, electrumForm_joinWords h.ne_nil h.isBlank_eq h.inert,
    ← toList_phrase, String.ofList_toList]

/-- An English phrase is split into its words. -/
theorem IsEnglish.splitPhrase_phrase (h : IsEnglish ws) (hne : ws ≠ []) :
    splitPhrase (" ".intercalate ws) = ws := by
  have hclean : Clean (joinWords (ws.map String.toList)) := by
    refine clean_joinWords fun w hw => clean_of_settled fun c hc => ?_
    obtain ⟨hlow, hhigh⟩ := h.letter w hw c hc
    exact settled_letter hlow hhigh
  have hnormal := normalPhrase_eq_self_iff.mpr ⟨hclean, Text.singleSpaced_joinWords h.ne_nil h.isBlank_eq⟩
  have hempty : normalPhrase (joinWords (ws.map String.toList)) ≠ [] := by
    rw [hnormal]
    exact Text.joinWords_ne_nil h.ne_nil (List.map_eq_nil_iff.not.mpr hne)
  refine splitPhrase_eq ?_
  rw [toList_phrase, phraseWords_of_ne_nil hempty, hnormal, Text.fields_joinWords h.ne_nil h.isBlank_eq]

theorem IsEnglish.map_normalizeWord (h : IsEnglish ws) : ws.map normalizeWord = ws := by
  refine (List.map_congr_left fun w hw => ?_).trans (List.map_id ws)
  obtain ⟨i, rfl⟩ := h w hw
  exact WordList.spelled_english i

/-- BIP39 reads an English phrase as its words. -/
theorem IsEnglish.accepts_phrase (h : IsEnglish ws) (hne : ws ≠ []) (l : WordList) :
    Bip39.accepts l (.phrase (" ".intercalate ws)) = (Bip39.decodeWords l ws).isOk := by
  have hwords : (ofPhrase (" ".intercalate ws) .bip39).words = ws := by
    rw [ofPhrase, h.splitPhrase_phrase hne]
    exact h.map_normalizeWord
  rw [Bip39.accepts, Bip39.decode, Input.mnemonic, ok_bind, hwords]

theorem isEnglish_wordsOf (count n : ℕ) : IsEnglish (WordList.english.wordsOf count n) := by
  intro w hw
  obtain ⟨i, -, rfl⟩ := List.mem_map.mp hw
  exact ⟨i, rfl⟩

end English

/-! ## The words for some entropy -/

section Words

variable {l : WordList} {c : Codec} {p q : Input} {m : Mnemonic} {e : Bytes}

theorem Bip39.words_of_decodeWords (hl : l.Spelled) (h : Bip39.decodeWords l m.words = .ok e) :
    m.words = l.wordsOf (3 * (e.length / 4)) (Bip39.packed (e.length / 4) e) := by
  obtain ⟨w, -, -, he, hwords⟩ := (Bip39.decodeWords_eq_ok_iff hl (map_normalizeWord m)).mp h
  have hw : e.length / 4 = w := by omega
  rw [hw, hwords]

/-- Words that decode are right in number and listed, have a version, and the bytes hold their number. -/
theorem Electrum.exists_places_of_decodeMnemonic (h : Electrum.decodeMnemonic l m = .ok e) :
    m.words.length ∈ wordCounts ∧ ∃ is v, l.indices m.words = .ok is ∧
      Electrum.wordsVersion l m = .ok (some v) ∧
      e = Bytes.ofNat ((11 * m.words.length + 7) / 8) (numeral is) := by
  by_cases hcount : m.words.length ∈ wordCounts
  · rw [Electrum.decodeMnemonic, if_pos hcount, bind_eq_ok] at h
    obtain ⟨is, his, h⟩ := h
    obtain ⟨version, hversion, h⟩ := bind_eq_ok.mp h
    cases version with
    | none => cases h
    | some v =>
      obtain rfl := Except.ok.inj h
      exact ⟨hcount, is, v, his, hversion, by
        rw [Electrum.entropySize_natCast, Int.toNat_natCast]⟩
  · rw [Electrum.decodeMnemonic, if_neg hcount] at h
    cases h

theorem Electrum.of_decodeMnemonic (h : Electrum.decodeMnemonic l m = .ok e) :
    m.words = l.wordsOf (8 * e.length / 11) (Bytes.toNat e) ∧
      ∃ v, Electrum.wordsVersion l m = .ok (some v) := by
  obtain ⟨-, is, v, his, hversion, rfl⟩ := Electrum.exists_places_of_decodeMnemonic h
  have hlt := WordList.numeral_lt_of_indices his
  rw [phrases_eq] at hlt
  have hfits := lt_of_lt_of_le hlt
    (Nat.le_of_dvd (Bytes.capacity_pos _) (Electrum.phrases_dvd_capacity m.words.length))
  -- at most seven bits of the entropy are spare, less than a word
  have hcount : 8 * ((11 * m.words.length + 7) / 8) / 11 = m.words.length := by omega
  refine ⟨?_, v, hversion⟩
  rw [Bytes.length_ofNat, hcount, Bytes.toNat_ofNat_of_lt hfits]
  exact WordList.eq_wordsOf (map_normalizeWord m) his

/-- The words that decode to the entropy, if any do. -/
def Codec.wordsFor : Codec → Bytes → List String
  | .bip39 l, e => l.wordsOf (3 * (e.length / 4)) (Bip39.packed (e.length / 4) e)
  | .electrum l _, e => l.wordsOf (8 * e.length / 11) (Bytes.toNat e)

theorem Codec.isEnglish_wordsFor (hc : c.words = .english) (e : Bytes) : IsEnglish (c.wordsFor e) := by
  cases c with
  | bip39 l =>
    obtain rfl : l = .english := hc
    exact isEnglish_wordsOf _ _
  | electrum l v =>
    obtain rfl : l = .english := hc
    exact isEnglish_wordsOf _ _

/-- **The entropy fixes the words.** -/
theorem Codec.of_decode (hl : c.words.Spelled) (h : c.decode p = .ok e) :
    ∃ m, p.mnemonic c.scheme = .ok m ∧ m.words = c.wordsFor e := by
  cases c with
  | bip39 l =>
    obtain ⟨m, hm, hdecode⟩ := Bip39.decode_eq_ok_iff.mp h
    exact ⟨m, hm, Bip39.words_of_decodeWords hl hdecode⟩
  | electrum l v =>
    obtain ⟨m, hm, hdecode⟩ := bind_eq_ok.mp h
    exact ⟨m, hm, (Electrum.of_decodeMnemonic hdecode).1⟩

theorem Input.scheme_of_mnemonic {scheme : Scheme} (h : p.mnemonic scheme = .ok m) :
    m.scheme = scheme := by
  cases p with
  | phrase text =>
    obtain rfl := Except.ok.inj h
    rfl
  | words ws =>
    obtain rfl := Except.ok.inj h
    rfl
  | ready n =>
    rw [Input.mnemonic] at h
    split at h
    · obtain rfl := Except.ok.inj h
      assumption
    · exact nomatch h

theorem eq_of_words {m n : Mnemonic} (hwords : m.words = n.words) (hscheme : m.scheme = n.scheme) :
    m = n := by
  cases m
  cases n
  cases hwords
  cases hscheme
  rfl

/-- Inputs with the same entropy stand for the same mnemonic. -/
theorem Codec.exists_mnemonic (hl : c.words.Spelled) (hp : c.decode p = .ok e)
    (hq : c.decode q = .ok e) :
    ∃ m, p.mnemonic c.scheme = .ok m ∧ q.mnemonic c.scheme = .ok m ∧ m.words = c.wordsFor e := by
  obtain ⟨m, hm, hwords⟩ := c.of_decode hl hp
  obtain ⟨n, hn, hwords'⟩ := c.of_decode hl hq
  have hscheme := (Input.scheme_of_mnemonic hn).trans (Input.scheme_of_mnemonic hm).symm
  obtain rfl := eq_of_words (hwords'.trans hwords.symm) hscheme
  exact ⟨n, hm, hn, hwords⟩

end Words

/-! ## Seeds -/

namespace Codec

variable {c : Codec} {p q : Input} {m : Mnemonic} {e : Bytes}

/-- The salt that a passphrase gives. -/
def salt : Codec → String → String
  | .bip39 _, passphrase => Bip39.saltStart ++ decomposed passphrase
  | .electrum .., passphrase => Electrum.saltStart ++ electrumNormalize passphrase

/-- The seed of an input that decodes is stretched from its phrase, as it stands. -/
theorem toSeed_eq (hc : c.words = .english) (hdecode : c.decode p = .ok e)
    (hm : p.mnemonic c.scheme = .ok m) (henglish : IsEnglish m.words) (passphrase : String)
    (checked : Bool) (rounds : ℤ) : c.toSeed p passphrase checked rounds =
      Digest.pbkdf2 .sha512 (Bytes.ofText m.phrase) (Bytes.ofText (c.salt passphrase)) rounds
        Bip39.seedSize := by
  cases c with
  | bip39 l =>
    obtain rfl : l = .english := hc
    replace hm : p.mnemonic .bip39 = .ok m := hm
    have hwords : Bip39.decodeWords .english m.words = .ok e := by
      rwa [Codec.decode, Bip39.decode, hm, ok_bind] at hdecode
    have hindices : ∃ is, WordList.english.indices m.words = .ok is := by
      rw [Bip39.words_of_decodeWords WordList.spelled_english hwords]
      exact ⟨_, WordList.spelled_english.indices_wordsOf _ _⟩
    have hphrase : decomposed m.phrase = m.phrase := henglish.decomposed_phrase
    rw [Codec.toSeed, Bip39.toSeed, hm, ok_bind, hphrase]
    cases checked with
    | true =>
      rw [if_pos rfl, discard_eq_ok.mpr ⟨e, hwords⟩, ok_bind]
      rfl
    | false =>
      -- words that are all listed are enough here
      rw [if_neg Bool.false_ne_true, discard_eq_ok.mpr hindices, ok_bind]
      rfl
  | electrum l v =>
    obtain rfl : l = .english := hc
    replace hm : p.mnemonic .electrum = .ok m := hm
    have hwords : Electrum.decodeMnemonic .english m = .ok e := by
      rwa [Codec.decode, Electrum.decode, hm, ok_bind] at hdecode
    have hphrase : electrumNormalize m.phrase = m.phrase := henglish.electrumNormalize_phrase
    rw [Codec.toSeed, Electrum.toSeed, hm, ok_bind, hphrase]
    cases checked with
    | true =>
      rw [if_pos rfl, discard_eq_ok.mpr ⟨e, hwords⟩, ok_bind]
      rfl
    | false =>
      rw [if_neg Bool.false_ne_true]
      rfl

/-- **The seed depends only on the entropy and the passphrase.** With the English list, inputs that
decode to the same entropy stand for one mnemonic in the words of the list. Its phrase is hashed as it
stands, so both inputs have the same seed under every passphrase, and the same version in Electrum. -/
theorem seed_of_decode {c : Codec} (hc : c.words = .english) {p q : Input} {e : Bytes}
    (hp : c.decode p = .ok e) (hq : c.decode q = .ok e) :
    ∃ m, p.mnemonic c.scheme = .ok m ∧ q.mnemonic c.scheme = .ok m ∧
      (∀ w ∈ m.words, ∃ i, WordList.english.word i = w) ∧
      decomposed m.phrase = m.phrase ∧ electrumNormalize m.phrase = m.phrase ∧
      (∀ passphrase checked (rounds : ℤ), 1 ≤ rounds → ∃ seed,
        Digest.pbkdf2 .sha512 (Bytes.ofText (" ".intercalate m.words))
          (Bytes.ofText (c.salt passphrase)) rounds Bip39.seedSize = .ok seed ∧
        c.toSeed p passphrase checked rounds = .ok seed ∧
        c.toSeed q passphrase checked rounds = .ok seed) ∧
      (c.scheme = .electrum → ∃ v, Electrum.seedVersion .english p = .ok (some v) ∧
        Electrum.seedVersion .english q = .ok (some v)) := by
  have hl : c.words.Spelled := by
    rw [hc]
    exact WordList.spelled_english
  obtain ⟨m, hpm, hqm, hwords⟩ := exists_mnemonic hl hp hq
  have henglish : IsEnglish m.words := by
    rw [hwords]
    exact isEnglish_wordsFor hc e
  refine ⟨m, hpm, hqm, henglish, henglish.decomposed_phrase, henglish.electrumNormalize_phrase,
    fun passphrase checked rounds hrounds => ?_, fun helectrum => ?_⟩
  · have hseed := Digest.pbkdf2_eq .sha512 (Bytes.ofText m.phrase)
      (Bytes.ofText (c.salt passphrase)) hrounds (show 1 ≤ (Bip39.seedSize : ℤ) by decide) (by decide)
    exact ⟨_, hseed, (toSeed_eq hc hp hpm henglish _ _ _).trans hseed,
      (toSeed_eq hc hq hqm henglish _ _ _).trans hseed⟩
  · cases c with
    | bip39 l => exact nomatch helectrum
    | electrum l v =>
      obtain rfl : l = .english := hc
      replace hpm : p.mnemonic .electrum = .ok m := hpm
      replace hqm : q.mnemonic .electrum = .ok m := hqm
      rw [Codec.decode, Electrum.decode, hpm, ok_bind] at hp
      obtain ⟨-, version, hversion⟩ := Electrum.of_decodeMnemonic hp
      rw [Electrum.seedVersion, Electrum.seedVersion, hpm, hqm, ok_bind]
      exact ⟨version, hversion, hversion⟩

/-- A phrase with capitals, an ordinal sign for a letter, an invisible character and more blanks than it
needs, and its words. -/
theorem seed_of_decode_abandon :
    let c := Codec.bip39 .english
    let text := "\u00AAbandon ABAN\u200BDON abandon  abandon abandon abandon " ++
      "abandon abandon abandon abandon\tabandon about\n"
    let p := Input.phrase text
    let q := Input.words (List.replicate 11 "abandon" ++ ["about"])
    c.words = .english ∧ c.decode p = .ok (List.replicate 16 0) ∧
      c.decode q = .ok (List.replicate 16 0) ∧
      ∀ passphrase, ∃ seed, c.toSeed p passphrase true c.rounds = .ok seed ∧
        c.toSeed q passphrase true c.rounds = .ok seed := by
  intro c text p q
  have hc : c.words = .english := rfl
  have hl := WordList.spelled_english
  have hws : List.replicate 11 "abandon" ++ ["about"] = WordList.english.wordsOf 12 3 := by
    decide
  have hpacked : Bip39.packed 4 (List.replicate 16 0) = 3 := by
    set_option maxRecDepth 20000 in decide
  have hdecode : Bip39.decodeWords .english (WordList.english.wordsOf 12 3) =
      .ok (List.replicate 16 0) := by
    refine (Bip39.decodeWords_eq_ok_iff hl (hl.map_wordsOf 12 3)).mpr ⟨4, by decide, by decide, rfl, ?_⟩
    rw [hpacked]
  have hp : c.decode p = .ok (List.replicate 16 0) := by
    refine Bip39.decode_eq_ok_iff.mpr ⟨_, rfl, ?_⟩
    have hsplit : splitPhrase text = WordList.english.wordsOf 12 3 := by
      rw [← hws]
      decide +kernel
    rw [ofPhrase, hsplit, hl.words_ofWords, hdecode]
  have hq : c.decode q = .ok (List.replicate 16 0) := by
    refine Bip39.decode_eq_ok_iff.mpr ⟨_, rfl, ?_⟩
    rw [hws, hl.map_wordsOf, hl.words_ofWords, hdecode]
  obtain ⟨m, -, -, -, -, -, hseeds, -⟩ := seed_of_decode hc hp hq
  refine ⟨hc, hp, hq, fun passphrase => ?_⟩
  obtain ⟨seed, -, hseed, hseed'⟩ := hseeds passphrase true c.rounds (by decide)
  exact ⟨seed, hseed, hseed'⟩

end Codec

end Airgap.Mnemonic
