import Airgap.Proofs.Mnemonic.ElectrumInverse
import Airgap.Proofs.Mnemonic.Raw
import Airgap.Proofs.WordList.Lookup

/-!
# How decoding ends

A codec looks at the scheme of its input, at the number of words, at each word in turn and at last at the
checksum or the version. It reports the first of these that is wrong. The words of a list may hold lone
surrogates; then, and only then, Electrum has a phrase that cannot be encoded to be hashed, and fails as no
reader of mnemonics should.

* `RawCodec.Checks`: what is asked of listed words; `RawCodec.mismatch`, the refusal if they fail it.
* `RawCodec.Unhashable`, `RawCodec.StopsAtHash`: the words, and the inputs, that Electrum cannot hash.
* `RawCodec.Outcome`: the ways in which decoding can end, with the condition of each.
* `RawCodec.decode_outcomes`: which of them comes about; `RawCodec.validate_surrogateList` is a list with
  a surrogate, over which validation fails.
-/

namespace Airgap

open Mnemonic (Bip39.checksum Electrum.hasTag Electrum.versionOf Scheme SeedVersion
  numeral wordCounts)

theorem Mnemonic.SeedVersion.mem_all (v : SeedVersion) : v ∈ SeedVersion.all := by
  cases v <;> decide

theorem Mnemonic.Electrum.versionOf_eq_none_iff {hash : Bytes} :
    versionOf hash = none ↔ ¬∃ v, hasTag hash v = true := by
  rw [versionOf, List.find?_eq_none, not_exists]
  exact ⟨fun h v => h v v.mem_all, fun h v _ => h v⟩

namespace RawCodec

variable {c : RawCodec} {p : RawInput} {m : RawMnemonic} {is : List WordIndex}

/-! ## What is asked of listed words -/

/-- Whether the words of a mnemonic, which stand at the places, pass the last check. For BIP39 the last
bits, one for every three words, are the checksum of the others; for Electrum the hash of the phrase
starts with the tag of a version. -/
def Checks (c : RawCodec) (m : RawMnemonic) (is : List WordIndex) : Prop :=
  match c.scheme with
  | .bip39 =>
    let width := m.words.length / 3
    numeral is % 2 ^ width =
      Bip39.checksum (Bytes.ofNat (4 * width) (numeral is / 2 ^ width)) width
  | .electrum => ∃ hash v, versionHash m.phrase = .ok hash ∧ Electrum.hasTag hash v = true

/-- The refusal of words that fail the last check. -/
def mismatch (c : RawCodec) : Error :=
  match c.scheme with
  | .bip39 => .bip39Checksum
  | .electrum => .unknownSeedVersion

/-- The entropy of words that pass it. -/
def entropyOf (c : RawCodec) (m : RawMnemonic) (is : List WordIndex) : Bytes :=
  match c.scheme with
  | .bip39 => Bytes.ofNat (4 * (m.words.length / 3)) (numeral is / 2 ^ (m.words.length / 3))
  | .electrum => Bytes.ofNat ((11 * m.words.length + 7) / 8) (numeral is)

/-- Whether the words of a mnemonic go into a hash and one of them holds a surrogate. -/
def Unhashable (c : RawCodec) (m : RawMnemonic) : Prop :=
  c.scheme = .electrum ∧ ∃ w ∈ m.words, ∃ s, .surrogate s ∈ w

/-- Whether an input stands for listed words, right in number, that cannot be hashed. -/
def StopsAtHash (c : RawCodec) (p : RawInput) : Prop :=
  ∃ m is, p.mnemonic c.scheme = .ok m ∧ m.words.length ∈ wordCounts ∧
    c.words.resolve m.words = (is, []) ∧ c.Unhashable m

theorem exists_versionHash (h : ¬∃ w ∈ m.words, ∃ s, .surrogate s ∈ w) :
    ∃ hash, versionHash m.phrase = .ok hash := by
  have hplain : ∀ s, .surrogate s ∉ m.phrase.electrumNormalize := by
    intro s hs
    rw [RawText.surrogate_mem_electrumNormalize, RawMnemonic.phrase,
      RawText.surrogate_mem_joinWords] at hs
    obtain ⟨w, hw, hs⟩ := hs
    exact h ⟨w, hw, s, hs⟩
  obtain ⟨encoded, hencoded⟩ := RawText.encode_eq_ok_iff.mpr hplain
  rw [versionHash, hencoded]
  exact ⟨_, rfl⟩

theorem exists_versionHash_eq_error (h : ∃ w ∈ m.words, ∃ s, .surrogate s ∈ w) :
    ∃ fault, versionHash m.phrase = .error (.plain (.utf8 fault)) := by
  obtain ⟨w, hw, s, hs⟩ := h
  have hphrase : .surrogate s ∈ m.phrase.electrumNormalize := by
    rw [RawText.surrogate_mem_electrumNormalize, RawMnemonic.phrase, RawText.surrogate_mem_joinWords]
    exact ⟨w, hw, hs⟩
  obtain ⟨fault, hfault⟩ := RawText.exists_encode_eq_error hphrase
  rw [versionHash, hfault]
  exact ⟨fault, rfl⟩

/-! ## One check after the other -/

/-- Only a mnemonic of the other scheme is refused. -/
theorem exists_of_mnemonic_eq_error {scheme : Scheme} {e : RawFailure}
    (h : p.mnemonic scheme = .error e) : ∃ m, p = .ready m ∧ m.scheme ≠ scheme := by
  cases p with
  | phrase text =>
    rw [RawInput.mnemonic] at h
    cases h
  | words ws =>
    rw [RawInput.mnemonic] at h
    cases h
  | ready m =>
    refine ⟨m, rfl, fun hscheme => ?_⟩
    rw [RawInput.mnemonic, if_pos hscheme] at h
    cases h

theorem decode_wrongScheme (h : m.scheme ≠ c.scheme) :
    c.decode (.ready m) = .error (.plain (.wrongScheme m.scheme c.scheme)) :=
  bind_eq_error.mpr (.inl (if_neg h))

theorem decode_wordCount (hm : p.mnemonic c.scheme = .ok m) (hcount : m.words.length ∉ wordCounts) :
    c.decode p = .error (.plain (.wordCount c.scheme m.words.length)) :=
  bind_eq_error.mpr (.inr ⟨m, hm, if_neg hcount⟩)

section Counted

variable (hm : p.mnemonic c.scheme = .ok m) (hcount : m.words.length ∈ wordCounts)

include hm hcount

theorem decode_unlisted {e : RawFailure} (he : c.words.indices m.words = .error e) :
    c.decode p = .error e := by
  refine bind_eq_error.mpr (.inr ⟨m, hm, ?_⟩)
  rw [if_pos hcount]
  exact bind_eq_error.mpr (.inl he)

variable (his : c.words.indices m.words = .ok is)

include his

theorem decode_bip39 (hscheme : c.scheme = .bip39) :
    let width := m.words.length / 3
    c.decode p = if numeral is % 2 ^ width =
        Bip39.checksum (Bytes.ofNat (4 * width) (numeral is / 2 ^ width)) width then
      .ok (Bytes.ofNat (4 * width) (numeral is / 2 ^ width))
    else .error (.plain .bip39Checksum) := by
  obtain ⟨w, -, -, hw⟩ := Mnemonic.Bip39.mem_wordCounts_iff.mp hcount
  have hwidth : m.words.length / 3 = w := by omega
  rw [decode, hm, ok_bind]
  simp only [if_pos hcount, his, ok_bind, hscheme]
  rw [hwidth, hw, Mnemonic.Bip39.decodeNumber_eq]
  split <;> rfl

theorem decode_electrum (hscheme : c.scheme = .electrum) :
    c.decode p = versionHash m.phrase >>= fun hash =>
      match Electrum.versionOf hash with
      | none => .error (.plain .unknownSeedVersion)
      | some _ => .ok (Bytes.ofNat ((11 * m.words.length + 7) / 8) (numeral is)) := by
  rw [decode, hm, ok_bind]
  simp only [if_pos hcount, his, ok_bind, hscheme, wordsVersion]
  rw [Mnemonic.Electrum.entropySize_natCast, Int.toNat_natCast]
  cases versionHash m.phrase with
  | error e => rfl
  | ok hash => rfl

theorem decode_checked (h : c.Checks m is) : c.decode p = .ok (c.entropyOf m is) := by
  obtain ⟨scheme, l⟩ := c
  cases scheme with
  | bip39 => exact (decode_bip39 hm hcount his rfl).trans (if_pos h)
  | electrum =>
    obtain ⟨hash, v, hhash, hv⟩ := h
    rw [decode_electrum hm hcount his rfl, hhash, ok_bind]
    cases hversion : Electrum.versionOf hash with
    | none => exact absurd ⟨v, hv⟩ (Mnemonic.Electrum.versionOf_eq_none_iff.mp hversion)
    | some v => rfl

theorem decode_mismatch (hhash : ¬c.Unhashable m) (h : ¬c.Checks m is) :
    c.decode p = .error (.plain c.mismatch) := by
  obtain ⟨scheme, l⟩ := c
  cases scheme with
  | bip39 => exact (decode_bip39 hm hcount his rfl).trans (if_neg h)
  | electrum =>
    obtain ⟨hash, hhash⟩ := exists_versionHash fun hw => hhash ⟨rfl, hw⟩
    have hnone : Electrum.versionOf hash = none :=
      Mnemonic.Electrum.versionOf_eq_none_iff.mpr fun ⟨v, hv⟩ => h ⟨hash, v, hhash, hv⟩
    rw [decode_electrum hm hcount his rfl, hhash, ok_bind, hnone]
    rfl

theorem exists_decode_unhashable (h : c.Unhashable m) :
    ∃ fault, c.decode p = .error (.plain (.utf8 fault)) := by
  obtain ⟨fault, hfault⟩ := exists_versionHash_eq_error h.2
  rw [decode_electrum hm hcount his h.1, hfault]
  exact ⟨fault, rfl⟩

end Counted

/-! ## The outcomes -/

/-- The ways in which decoding can end. -/
inductive Outcome (c : RawCodec) (p : RawInput) : Except RawFailure Bytes → Prop
  | wrongScheme {m : RawMnemonic} (hp : p = .ready m) (hscheme : m.scheme ≠ c.scheme) :
    Outcome c p (.error (.plain (.wrongScheme m.scheme c.scheme)))
  | wordCount {m : RawMnemonic} (hm : p.mnemonic c.scheme = .ok m)
    (hcount : m.words.length ∉ wordCounts) :
    Outcome c p (.error (.plain (.wordCount c.scheme m.words.length)))
  | unknownWord {m : RawMnemonic} {position : ℕ} {w : RawText} {rest : List (ℕ × RawText)}
    (hm : p.mnemonic c.scheme = .ok m) (hcount : m.words.length ∈ wordCounts)
    (hmissing : (c.words.resolve m.words).2 = (position, w) :: rest) :
    Outcome c p (.error (.unknownWord w (some position)))
  | unhashable {m : RawMnemonic} {is : List WordIndex} {fault : Utf8Fault}
    (hm : p.mnemonic c.scheme = .ok m) (hcount : m.words.length ∈ wordCounts)
    (hfound : c.words.resolve m.words = (is, [])) (hhash : c.Unhashable m) :
    Outcome c p (.error (.plain (.utf8 fault)))
  | mismatch {m : RawMnemonic} {is : List WordIndex} (hm : p.mnemonic c.scheme = .ok m)
    (hcount : m.words.length ∈ wordCounts) (hfound : c.words.resolve m.words = (is, []))
    (hhash : ¬c.Unhashable m) (hchecks : ¬c.Checks m is) : Outcome c p (.error (.plain c.mismatch))
  | entropy {m : RawMnemonic} {is : List WordIndex} (hm : p.mnemonic c.scheme = .ok m)
    (hcount : m.words.length ∈ wordCounts) (hfound : c.words.resolve m.words = (is, []))
    (hhash : ¬c.Unhashable m) (hchecks : c.Checks m is) : Outcome c p (.ok (c.entropyOf m is))

theorem outcome_decode (c : RawCodec) (p : RawInput) : c.Outcome p (c.decode p) := by
  cases hm : p.mnemonic c.scheme with
  | error e =>
    obtain ⟨m, rfl, hscheme⟩ := exists_of_mnemonic_eq_error hm
    rw [decode_wrongScheme hscheme]
    exact .wrongScheme rfl hscheme
  | ok m =>
    by_cases hcount : m.words.length ∈ wordCounts
    · rcases hfound : c.words.resolve m.words with ⟨is, _ | ⟨⟨position, w⟩, rest⟩⟩
      · have his := RawWordList.resolve_eq_iff.mp hfound
        by_cases hhash : c.Unhashable m
        · obtain ⟨fault, hfault⟩ := exists_decode_unhashable hm hcount his hhash
          rw [hfault]
          exact .unhashable hm hcount hfound hhash
        · by_cases hchecks : c.Checks m is
          · rw [decode_checked hm hcount his hchecks]
            exact .entropy hm hcount hfound hhash hchecks
          · rw [decode_mismatch hm hcount his hhash hchecks]
            exact .mismatch hm hcount hfound hhash hchecks
      · have hmissing := congrArg Prod.snd hfound
        have he : c.words.indices m.words = .error (.unknownWord w (some position)) := by
          rw [RawWordList.indices_eq, hfound]
        rw [decode_unlisted hm hcount he]
        exact .unknownWord hm hcount hmissing
    · rw [decode_wordCount hm hcount]
      exact .wordCount hm hcount

theorem outcome_of_eq {r : Except RawFailure Bytes} (h : c.decode p = r) : c.Outcome p r :=
  h ▸ outcome_decode c p

/-- The last check has a refusal of its own. -/
theorem kind_mismatch (c : RawCodec) : c.mismatch.kind ∈ [.checksum, .seedVersion] := by
  rw [mismatch]
  cases c.scheme <;> decide

/-- An input that is refused before the hash, or passes it, fails as a reader of mnemonics may. -/
theorem kind_of_decode_eq_error (hp : ¬c.StopsAtHash p) {e : RawFailure} (h : c.decode p = .error e) :
    e.kind ∈ [.parameter, .unknownWord, .checksum, .seedVersion] := by
  cases outcome_of_eq h with
  | wrongScheme hp hscheme => exact List.mem_cons_self
  | wordCount hm hcount => exact List.mem_cons_self
  | unknownWord hm hcount hmissing => exact List.mem_cons_of_mem _ List.mem_cons_self
  | unhashable hm hcount hfound hhash => exact absurd ⟨_, _, hm, hcount, hfound, hhash⟩ hp
  | mismatch hm hcount hfound hhash hchecks =>
    exact List.mem_cons_of_mem _ (List.mem_cons_of_mem _ c.kind_mismatch)

theorem validate_eq (hp : ¬c.StopsAtHash p) : c.validate p = .ok (c.accepts p) := by
  rw [validate, accepts]
  cases h : c.decode p with
  | ok e => rfl
  | error e =>
    have hinput : ∀ k ∈ [ErrorKind.parameter, .unknownWord, .checksum, .seedVersion],
        k.isInput = true := by decide
    simp only [hinput _ (kind_of_decode_eq_error hp h), if_true]
    rfl

/-- An input that cannot be hashed ends decoding and validation alike. -/
theorem exists_fault_of_stopsAtHash (hp : c.StopsAtHash p) :
    ∃ fault, c.decode p = .error (.plain (.utf8 fault)) ∧
      c.validate p = .error (.plain (.utf8 fault)) := by
  obtain ⟨m, is, hm, hcount, hfound, hhash⟩ := hp
  obtain ⟨fault, hfault⟩ :=
    exists_decode_unhashable hm hcount (RawWordList.resolve_eq_iff.mp hfound) hhash
  refine ⟨fault, hfault, ?_⟩
  rw [validate, hfault]
  rfl

/-- Listed words hold no surrogates that the list does not hold. -/
theorem not_stopsAtHash (hl : ∀ i s, .surrogate s ∉ c.words.word i) : ¬c.StopsAtHash p := by
  rintro ⟨m, is, -, -, hfound, -, w, hw, s, hs⟩
  obtain ⟨i, hi⟩ := RawWordList.exists_word_of_resolve hfound hw
  exact hl i s (hi ▸ RawText.surrogate_mem_normalizeWord.mpr hs)

theorem parameter_iff : (∃ e, c.decode p = .error e ∧ e.kind = .parameter) ↔
    (∃ m, p = .ready m ∧ m.scheme ≠ c.scheme) ∨
      ∃ m, p.mnemonic c.scheme = .ok m ∧ m.words.length ∉ wordCounts := by
  constructor
  · rintro ⟨e, he, hkind⟩
    cases outcome_of_eq he with
    | wrongScheme hp hscheme => exact .inl ⟨_, hp, hscheme⟩
    | wordCount hm hcount => exact .inr ⟨_, hm, hcount⟩
    | unknownWord hm hcount hmissing => exact nomatch hkind
    | unhashable hm hcount hfound hhash => exact nomatch hkind
    | mismatch hm hcount hfound hhash hchecks =>
      have hmismatch := c.kind_mismatch
      rw [show c.mismatch.kind = .parameter from hkind] at hmismatch
      exact absurd hmismatch (by decide)
  · rintro (⟨m, rfl, hscheme⟩ | ⟨m, hm, hcount⟩)
    · exact ⟨_, decode_wrongScheme hscheme, rfl⟩
    · exact ⟨_, decode_wordCount hm hcount, rfl⟩

/-- A word is reported exactly if it is the first that a lookup of all words would report. -/
theorem unknownWord_iff (hm : p.mnemonic c.scheme = .ok m) (hcount : m.words.length ∈ wordCounts)
    {e : RawFailure} : c.decode p = .error e ∧ e.kind = .unknownWord ↔
      ∃ (position : ℕ) (w : RawText), (c.words.resolve m.words).2.head? = some (position, w) ∧
        e = .unknownWord w (some position) := by
  constructor
  · rintro ⟨he, hkind⟩
    cases outcome_of_eq he with
    | wrongScheme hp hscheme => exact nomatch hkind
    | wordCount hm hcount => exact nomatch hkind
    | unknownWord hm' _ hmissing =>
      obtain rfl := Except.ok.inj (hm.symm.trans hm')
      exact ⟨_, _, by rw [hmissing, List.head?_cons], rfl⟩
    | unhashable hm hcount hfound hhash => exact nomatch hkind
    | mismatch hm hcount hfound hhash hchecks =>
      have hmismatch := c.kind_mismatch
      rw [show c.mismatch.kind = .unknownWord from hkind] at hmismatch
      exact absurd hmismatch (by decide)
  · rintro ⟨position, w, hfirst, rfl⟩
    obtain ⟨rest, hmissing⟩ := List.head?_eq_some_iff.mp hfirst
    refine ⟨decode_unlisted hm hcount ?_, rfl⟩
    rw [RawWordList.indices_eq, hmissing]

/-! ## A list with a surrogate -/

section Surrogates

variable (s : Fin 0x800)

/-- The English words with a surrogate in place of the first. -/
def surrogateWords : List RawText := [.surrogate s] :: WordList.englishWords.tail.map .ofString

theorem length_surrogateWords : (surrogateWords s).length = wordCount := by
  rw [surrogateWords, List.length_cons, List.length_map, List.length_tail,
    WordList.length_englishWords, Nat.sub_add_cancel (by decide)]

theorem nodup_surrogateWords : (surrogateWords s).Nodup := by
  refine List.nodup_cons.mpr ⟨fun h => ?_, ?_⟩
  · obtain ⟨w, -, hw⟩ := List.mem_map.mp h
    refine RawText.surrogate_not_mem_ofChars s w.toList ?_
    rw [show RawText.ofChars w.toList = [.surrogate s] from hw]
    exact List.mem_singleton_self _
  · exact (WordList.nodup_englishWords.sublist (List.tail_sublist _)).map RawText.ofString_injective

/-- The list of these words. -/
def surrogateList : RawWordList where
  language := "custom"
  words := ⟨(surrogateWords s).toArray, by rw [List.size_toArray, length_surrogateWords]⟩
  nodup := nodup_surrogateWords s

theorem ofWords_surrogateWords :
    RawWordList.ofWords "custom" (surrogateWords s) = .ok (surrogateList s) := by
  rw [RawWordList.ofWords, dif_pos (length_surrogateWords s), dif_pos (nodup_surrogateWords s)]
  rfl

/-- Twelve times the surrogate. -/
def typedSurrogates : RawMnemonic := .ofWords (List.replicate 12 [.surrogate s]) .electrum

theorem resolve_typedSurrogates :
    (surrogateList s).resolve (typedSurrogates s).words = (List.replicate 12 0, []) := by
  have hlookup : (surrogateList s).lookup? [.surrogate s] = some 0 :=
    RawWordList.lookup?_eq_some_iff.mpr rfl
  have hwords : (typedSurrogates s).words = List.replicate 12 [.surrogate s] := rfl
  rw [RawWordList.resolve_eq_iff, hwords]
  refine mapM_eq_ok (g := fun _ => 0) fun q hq => ?_
  rw [List.eq_of_mem_replicate (List.fst_mem_of_mem_zipIdx hq), RawWordList.index, hlookup]

theorem stopsAtHash_typedSurrogates :
    StopsAtHash ⟨.electrum, surrogateList s⟩ (.ready (typedSurrogates s)) :=
  ⟨typedSurrogates s, _, rfl, show 12 ∈ wordCounts by decide, resolve_typedSurrogates s, rfl, _,
    List.mem_cons_self, s, List.mem_cons_self⟩

end Surrogates

theorem versionHash_typedSurrogates :
    versionHash (typedSurrogates 0).phrase = .error (.plain (.utf8 (.surrogate 0 0))) := by rfl

/-! ## English words -/

theorem resolve_wordsOf (scheme : Scheme) (n x : ℕ) :
    (RawWordList.ofWordList .english).resolve
        (RawMnemonic.ofMnemonic (.ofWords (WordList.english.wordsOf n x) scheme)).words =
      (Mnemonic.placesOf n x, []) := by
  have hl := WordList.spelled_english
  have hwords : (RawMnemonic.ofMnemonic (.ofWords (WordList.english.wordsOf n x) scheme)).words =
      (WordList.english.wordsOf n x).map .ofString :=
    congrArg (List.map RawText.ofString) (hl.words_ofWords n x scheme)
  rw [RawWordList.resolve_eq_iff, hwords, RawWordList.indices_ofWordList, hl.indices_wordsOf]
  rfl

theorem not_mem_word_ofWordList (l : WordList) (i : WordIndex) (s : Fin 0x800) :
    .surrogate s ∉ (RawWordList.ofWordList l).word i := by
  rw [RawWordList.word_ofWordList]
  exact RawText.surrogate_not_mem_ofChars s _

/-! ## All inputs -/

/-- **How decoding ends.** A parameter is refused exactly if the input is a mnemonic of the other scheme
or has no number of words that a phrase may have. Otherwise a word is reported exactly if looking up all
words at once reports some, and it is the first of them, at its position. If all words are listed and can
be hashed where they have to be, the codec returns or refuses as the last check says; then nothing else
comes about, so validation does not fail, and it says whether decoding returns. Listed words that cannot
be hashed end both in a failure of the encoding; without surrogates in the list there are none. -/
theorem decode_outcomes (c : RawCodec) (p : RawInput) :
    ((∃ e, c.decode p = .error e ∧ e.kind = .parameter) ↔
      (∃ m, p = .ready m ∧ m.scheme ≠ c.scheme) ∨
        ∃ m, p.mnemonic c.scheme = .ok m ∧ m.words.length ∉ [12, 15, 18, 21, 24]) ∧
    (∀ m, p.mnemonic c.scheme = .ok m → m.words.length ∈ [12, 15, 18, 21, 24] →
      (∀ e, c.decode p = .error e ∧ e.kind = .unknownWord ↔
        ∃ (position : ℕ) (w : RawText), (c.words.resolve m.words).2.head? = some (position, w) ∧
          e = .unknownWord w (some position)) ∧
      ∀ is, c.words.resolve m.words = (is, []) → ¬c.Unhashable m →
        ((∃ data, c.decode p = .ok data) ↔ c.Checks m is) ∧
        (c.decode p = .error (.plain c.mismatch) ↔ ¬c.Checks m is)) ∧
    (c.accepts p = true ↔ ∃ data, c.decode p = .ok data) ∧
    (¬c.StopsAtHash p →
      (∀ e, c.decode p = .error e →
        e.kind ∈ [.parameter, .unknownWord, .checksum, .seedVersion]) ∧
      c.validate p = .ok (c.accepts p)) ∧
    (c.StopsAtHash p → ∃ fault, c.decode p = .error (.plain (.utf8 fault)) ∧
      c.validate p = .error (.plain (.utf8 fault))) ∧
    ((∀ i s, .surrogate s ∉ c.words.word i) → ¬c.StopsAtHash p) := by
  refine ⟨parameter_iff,
    fun m hm hcount => ⟨fun e => unknownWord_iff hm hcount, fun is hfound hhash => ?_⟩, isOk_iff,
    fun hp => ⟨fun e => kind_of_decode_eq_error hp, validate_eq hp⟩, exists_fault_of_stopsAtHash,
    not_stopsAtHash⟩
  have his := RawWordList.resolve_eq_iff.mp hfound
  by_cases hchecks : c.Checks m is
  · rw [decode_checked hm hcount his hchecks]
    exact ⟨⟨fun _ => hchecks, fun _ => ⟨_, rfl⟩⟩, ⟨fun h => (nomatch h), fun h => absurd hchecks h⟩⟩
  · rw [decode_mismatch hm hcount his hhash hchecks]
    exact ⟨⟨fun ⟨_, h⟩ => (nomatch h), fun h => absurd h hchecks⟩, ⟨fun _ => hchecks, fun _ => rfl⟩⟩

/-- The words for sixteen zeros pass the check of BIP39; those for ninety-seven hold no surrogates and
have a version of Electrum; a list with a surrogate has words that cannot be hashed. -/
theorem decode_outcomes_thrice :
    (let c := ofCodec (.bip39 .english)
      let m := RawMnemonic.ofMnemonic (.ofWords (WordList.english.wordsOf 12 3) .bip39)
      (RawInput.ready m).mnemonic c.scheme = .ok m ∧ m.words.length ∈ [12, 15, 18, 21, 24] ∧
        c.words.resolve m.words = (Mnemonic.placesOf 12 3, []) ∧ ¬c.Unhashable m ∧
        c.Checks m (Mnemonic.placesOf 12 3) ∧ c.validate (.ready m) = .ok true) ∧
    (let c := ofCodec (.electrum .english .segwit)
      let m := RawMnemonic.ofMnemonic (.ofWords (WordList.english.wordsOf 12 97) .electrum)
      (RawInput.ready m).mnemonic c.scheme = .ok m ∧ m.words.length ∈ [12, 15, 18, 21, 24] ∧
        c.words.resolve m.words = (Mnemonic.placesOf 12 97, []) ∧ ¬c.StopsAtHash (.ready m) ∧
        c.Checks m (Mnemonic.placesOf 12 97) ∧ c.validate (.ready m) = .ok true) ∧
    let c : RawCodec := ⟨.electrum, surrogateList 0⟩
    c.StopsAtHash (.ready (typedSurrogates 0)) ∧
      ∃ fault, c.validate (.ready (typedSurrogates 0)) = .error (.plain (.utf8 fault)) := by
  refine ⟨?_, ?_, ?_⟩
  · intro c m
    have hlength : m.words.length = 12 := rfl
    have hfound : c.words.resolve m.words = (Mnemonic.placesOf 12 3, []) := resolve_wordsOf _ _ _
    have hhash : ¬c.Unhashable m := fun h => nomatch h.1
    have hchecks : c.Checks m (Mnemonic.placesOf 12 3) := by
      simp only [Checks, hlength, show c.scheme = .bip39 from rfl]
      set_option maxRecDepth 20000 in decide
    obtain ⟨-, houtcomes, haccepts, hvalidate, -, hplain⟩ := decode_outcomes c (.ready m)
    have hreturns := ((houtcomes m rfl (by rw [hlength]; decide)).2 _ hfound hhash).1.mpr hchecks
    have hstops := hplain (not_mem_word_ofWordList .english)
    refine ⟨rfl, by rw [hlength]; decide, hfound, hhash, hchecks, ?_⟩
    rw [(hvalidate hstops).2, haccepts.mpr hreturns]
  · intro c m
    have hlength : m.words.length = 12 := rfl
    have hfound : c.words.resolve m.words = (Mnemonic.placesOf 12 97, []) := resolve_wordsOf _ _ _
    have hchecks : c.Checks m (Mnemonic.placesOf 12 97) := by
      refine ⟨_, .standard, versionHash_ofMnemonic _, ?_⟩
      rw [Mnemonic.Electrum.phrase_ofWords WordList.spelled_english]
      exact Mnemonic.Electrum.hasTag_around
    obtain ⟨-, houtcomes, haccepts, hvalidate, -, hplain⟩ := decode_outcomes c (.ready m)
    have hstops := hplain (not_mem_word_ofWordList .english)
    have hhash : ¬c.Unhashable m := fun h => hstops ⟨m, _, rfl, by rw [hlength]; decide, hfound, h⟩
    have hreturns := ((houtcomes m rfl (by rw [hlength]; decide)).2 _ hfound hhash).1.mpr hchecks
    refine ⟨rfl, by rw [hlength]; decide, hfound, hstops, hchecks, ?_⟩
    rw [(hvalidate hstops).2, haccepts.mpr hreturns]
  · intro c
    have hstops : c.StopsAtHash (.ready (typedSurrogates 0)) := stopsAtHash_typedSurrogates 0
    obtain ⟨-, -, -, -, hfails, -⟩ := decode_outcomes c (.ready (typedSurrogates 0))
    obtain ⟨fault, -, hfault⟩ := hfails hstops
    exact ⟨hstops, fault, hfault⟩

/-- **A list with a surrogate for its first word.** Twelve times this word is listed and right in number,
but neither decoding nor validation comes to an answer. -/
theorem validate_surrogateList :
    let c : RawCodec := ⟨.electrum, surrogateList 0⟩
    let p : RawInput := .words (List.replicate 12 [.surrogate 0])
    let failure : RawFailure := .plain (.utf8 (.surrogate 0 0))
    RawWordList.ofWords "custom" (surrogateWords 0) = .ok (surrogateList 0) ∧
      (∃ m, p.mnemonic c.scheme = .ok m ∧ m.words.length = 12 ∧ (c.words.resolve m.words).2 = []) ∧
      c.decode p = .error failure ∧ c.validate p = .error failure ∧
      failure.kind ∉ [.parameter, .unknownWord, .checksum, .seedVersion] := by
  intro c p failure
  have hm : p.mnemonic c.scheme = .ok (typedSurrogates 0) := rfl
  have hdecode : c.decode p = .error failure := by
    have his := RawWordList.resolve_eq_iff.mp (resolve_typedSurrogates 0)
    rw [decode_electrum hm (by decide) his rfl, versionHash_typedSurrogates, error_bind]
  refine ⟨ofWords_surrogateWords 0, ⟨_, hm, rfl, congrArg Prod.snd (resolve_typedSurrogates 0)⟩,
    hdecode, ?_, by decide⟩
  rw [validate, hdecode]
  rfl

end RawCodec

end Airgap
