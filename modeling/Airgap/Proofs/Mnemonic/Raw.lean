import Airgap.Mnemonic.Raw
import Airgap.Proofs.Outcome
import Airgap.Proofs.Text.Surrogate
import Airgap.Proofs.WordList

/-!
# Texts without surrogates decode as strings do

* `RawText.normalizeWord_ofString`, `RawText.splitPhrase_ofString`,
  `RawText.electrumNormalize_ofString`: the spellings of a text without surrogates.
* `RawText.surrogate_mem_electrumNormalize`: no surrogate is lost on the way to the hash.
* `RawWordList.lookup?_eq_some_iff`, `RawWordList.indices_eq`: as for word lists without surrogates.
* `RawCodec.decode_ofCodec`, `RawCodec.validate_ofCodec`: without surrogates, a codec does what
  `Mnemonic.Codec` says.
-/

namespace Airgap

/-! ## Spelling -/

namespace RawText

variable {s : Fin 0x800} {t : RawText}

theorem ofString_injective : Function.Injective ofString := fun _ _ h =>
  String.toList_inj.mp (ofChars_injective h)

theorem decomposed_ofChars (cs : List Char) :
    decomposed (ofChars cs) = ofChars (Text.nfkd (Mnemonic.visible cs)) := by
  rw [decomposed, mapRuns_ofChars, mapRuns_ofChars]

theorem ofString_onString (f : List Char → List Char) (w : String) :
    ofString (Mnemonic.onString f w) = ofChars (f w.toList) := by
  rw [ofString, Mnemonic.onString, String.toList_ofList]

theorem normalizeWord_ofString (w : String) :
    normalizeWord (ofString w) = ofString (Mnemonic.normalizeWord w) := by
  rw [Mnemonic.normalizeWord, ofString_onString, normalizeWord, ofString, decomposed_ofChars,
    strip_ofChars, mapRuns_ofChars, Mnemonic.normalWord]

theorem map_normalizeWord_ofString (ws : List String) :
    (ws.map ofString).map normalizeWord = (ws.map Mnemonic.normalizeWord).map ofString := by
  simp only [List.map_map, Function.comp_def, normalizeWord_ofString]

theorem normalizePhrase_ofChars (cs : List Char) :
    normalizePhrase (ofChars cs) = ofChars (Mnemonic.normalPhrase cs) := by
  rw [normalizePhrase, decomposed_ofChars, mapRuns_ofChars, fields_ofChars, joinWords_map_ofChars,
    Mnemonic.normalPhrase]

theorem splitPhrase_ofString (w : String) :
    splitPhrase (ofString w) = (Mnemonic.splitPhrase w).map ofString := by
  have hpieces (cs : List Char) : Text.splitWhere (· == .char ' ') (ofChars cs) =
      (Text.splitWhere (· == ' ') cs).map ofChars := by
    have hspace : (fun c : Char => CodePoint.char c == .char ' ') = (· == ' ') := by
      funext c
      rw [Bool.eq_iff_iff, beq_iff_eq, beq_iff_eq, CodePoint.char.injEq]
    rw [ofChars, Text.splitWhere_map, hspace]
    rfl
  rw [splitPhrase, ofString, strip_ofChars, normalizePhrase_ofChars, hpieces, Mnemonic.splitPhrase,
    Mnemonic.phraseWords]
  cases Text.strip w.toList with
  | nil => rfl
  | cons c cs =>
    simp only [ofChars, List.map_cons, List.isEmpty_cons, Bool.false_eq_true, if_false, List.map_map]
    refine List.map_congr_left fun v _ => ?_
    rw [Function.comp_apply, ofString, String.toList_ofList]

theorem closeUp_ofChars (before : Option Char) (cs : List Char) :
    closeUp (before.map .char) (ofChars cs) = ofChars (Mnemonic.closeUp before cs) := by
  have hfaces (c? : Option Char) : facesIdeograph (c?.map .char) = Mnemonic.facesIdeograph c? := by
    cases c? <;> rfl
  induction cs generalizing before with
  | nil => rfl
  | cons c cs ih =>
    have hnext := ih (some c)
    rw [ofChars, Option.map_some] at hnext
    rw [ofChars, List.map_cons, closeUp, Mnemonic.closeUp, hnext, List.head?_map, hfaces, hfaces,
      apply_ite ofChars]
    rfl

theorem electrumNormalize_ofString (w : String) :
    electrumNormalize (ofString w) = ofString (Mnemonic.electrumNormalize w) := by
  rw [Mnemonic.electrumNormalize, ofString_onString, electrumNormalize, ofString, decomposed_ofChars,
    mapRuns_ofChars, mapRuns_ofChars, fields_ofChars, joinWords_map_ofChars]
  exact closeUp_ofChars none _

theorem joinWords_map_ofString (ws : List String) :
    joinWords (ws.map ofString) = ofString (" ".intercalate ws) := by
  have hwords : ws.map ofString = (ws.map String.toList).map ofChars := by
    rw [List.map_map]
    rfl
  rw [hwords, joinWords_map_ofChars, ofString, String.toList_intercalate]
  rfl

/-! ## Surrogates -/

theorem surrogate_mem_closeUp (before : Option CodePoint) :
    .surrogate s ∈ closeUp before t ↔ .surrogate s ∈ t := by
  induction t generalizing before with
  | nil => rw [closeUp]
  | cons c t ih =>
    rw [closeUp]
    split
    · rename_i hdropped
      have hblank : c.isBlank = true := by
        rw [Bool.and_eq_true, Bool.and_eq_true] at hdropped
        exact hdropped.1.1
      have hc : .surrogate s ≠ c := by
        rintro rfl
        exact nomatch hblank
      rw [ih, List.mem_cons, or_iff_right hc]
    · rw [List.mem_cons, ih, List.mem_cons]

theorem surrogate_mem_decomposed : .surrogate s ∈ decomposed t ↔ .surrogate s ∈ t := by
  rw [decomposed, surrogate_mem_mapRuns, surrogate_mem_mapRuns]

theorem surrogate_mem_normalizeWord : .surrogate s ∈ normalizeWord t ↔ .surrogate s ∈ t := by
  rw [normalizeWord, surrogate_mem_mapRuns, surrogate_mem_strip, surrogate_mem_decomposed]

/-- No surrogate is lost on the way to the hash. -/
theorem surrogate_mem_electrumNormalize : .surrogate s ∈ electrumNormalize t ↔ .surrogate s ∈ t := by
  rw [electrumNormalize, surrogate_mem_closeUp, surrogate_mem_joinWords_fields, surrogate_mem_mapRuns,
    surrogate_mem_mapRuns, surrogate_mem_decomposed]

end RawText

/-! ## Word lists -/

/-- A failure over texts without surrogates. -/
def RawFailure.ofError : Error → RawFailure
  | .unknownWord w position => .unknownWord (.ofString w) position
  | e => .plain e

theorem RawFailure.kind_ofError (e : Error) : (ofError e).kind = e.kind := by
  cases e <;> rfl

namespace RawWordList

variable {l : RawWordList} {ws : List RawText}

theorem lookup?_eq_some_iff {typed : RawText} {i : WordIndex} :
    l.lookup? typed = some i ↔ l.word i = typed.normalizeWord := findFinIdx?_eq_some_iff l.nodup

/-- Words are looked up one after the other as they are all at once, up to the first that is not
listed. -/
theorem indices_eq (l : RawWordList) (ws : List RawText) : l.indices ws =
    match (l.resolve ws).2 with
    | [] => .ok (l.resolve ws).1
    | (position, w) :: _ => .error (.unknownWord w (some position)) := by
  have hfound (p : RawText × ℕ) (i : WordIndex) (h : l.lookup? p.1 = some i) :
      l.index p.1 (some p.2) = .ok i := by rw [index, h]
  have hmissing (p : RawText × ℕ) (h : l.lookup? p.1 = none) :
      l.index p.1 (some p.2) = .error (.unknownWord p.1 (some p.2)) := by rw [index, h]
  rw [indices, mapM_zipIdx_eq hfound hmissing, resolve]
  cases (ws.zipIdx.filter fun p => (l.lookup? p.1).isNone) with
  | nil => rfl
  | cons p ps => rfl

theorem resolve_eq_iff {is : List WordIndex} : l.resolve ws = (is, []) ↔ l.indices ws = .ok is := by
  rw [indices_eq]
  obtain ⟨found, missing⟩ := l.resolve ws
  cases missing with
  | nil => simp
  | cons p ps => simp

/-- Words that are all found have their spelling in the list. -/
theorem exists_word_of_resolve {is : List WordIndex} (h : l.resolve ws = (is, [])) {w : RawText}
    (hw : w ∈ ws) : ∃ i, l.word i = w.normalizeWord := by
  have hnone := congrArg Prod.snd h
  rw [resolve, List.map_eq_nil_iff, List.filter_eq_nil_iff] at hnone
  obtain ⟨position, hposition, hget⟩ := List.getElem_of_mem hw
  have hfound := hnone (w, position) (List.mem_zipIdx_iff_getElem?.mpr
    (List.getElem?_eq_some_iff.mpr ⟨hposition, hget⟩))
  rw [Bool.not_eq_true, Option.isNone_eq_false_iff, Option.isSome_iff_exists] at hfound
  obtain ⟨i, hi⟩ := hfound
  exact ⟨i, lookup?_eq_some_iff.mp hi⟩

/-- A list of words without surrogates. -/
def ofWordList (l : WordList) : RawWordList where
  language := l.language
  words := l.words.map .ofString
  nodup := by
    rw [Vector.toList_map]
    exact l.nodup.map RawText.ofString_injective

variable (l : WordList)

theorem word_ofWordList (i : WordIndex) : (ofWordList l).word i = .ofString (l.word i) :=
  Vector.getElem_map _ _

theorem lookup?_ofWordList (w : String) : (ofWordList l).lookup? (.ofString w) = l.lookup? w := by
  ext i
  rw [lookup?_eq_some_iff, WordList.lookup?_eq_some_iff, word_ofWordList,
    RawText.normalizeWord_ofString, RawText.ofString_injective.eq_iff]

theorem index_ofWordList (w : String) (position : Option ℤ) :
    (ofWordList l).index (.ofString w) position = (l.index w position).mapError .ofError := by
  rw [index, lookup?_ofWordList, WordList.index]
  cases l.lookup? w <;> rfl

theorem indices_ofWordList (ws : List String) :
    (ofWordList l).indices (ws.map .ofString) = (l.indices ws).mapError .ofError := by
  rw [indices, List.zipIdx_map, List.mapM_map, WordList.indices, ← mapM_mapError]
  exact congrArg (List.mapM · ws.zipIdx) (funext fun p => index_ofWordList l p.1 _)

end RawWordList

/-! ## Codecs -/

/-- A mnemonic without surrogates. -/
def RawMnemonic.ofMnemonic (m : Mnemonic) : RawMnemonic where
  words := m.words.map .ofString
  scheme := m.scheme
  spelled := by
    obtain ⟨ws, hws⟩ := m.spelled
    exact ⟨ws.map .ofString, by rw [hws, RawText.map_normalizeWord_ofString]⟩

/-- An input without surrogates. -/
def RawInput.ofInput : Mnemonic.Input → RawInput
  | .phrase text => .phrase (.ofString text)
  | .words ws => .words (ws.map .ofString)
  | .ready m => .ready (.ofMnemonic m)

/-- A codec with a list of words without surrogates. -/
def RawCodec.ofCodec (c : Mnemonic.Codec) : RawCodec := ⟨c.scheme, .ofWordList c.words⟩

theorem RawMnemonic.ofWords_map_ofString (ws : List String) (scheme : Mnemonic.Scheme) :
    ofWords (ws.map .ofString) scheme = ofMnemonic (Mnemonic.ofWords ws scheme) := by
  rw [ofWords, ofMnemonic, mk.injEq]
  exact ⟨RawText.map_normalizeWord_ofString ws, rfl⟩

theorem RawInput.mnemonic_ofInput (scheme : Mnemonic.Scheme) (p : Mnemonic.Input) :
    (ofInput p).mnemonic scheme =
      ((p.mnemonic scheme).mapError .ofError).map .ofMnemonic := by
  cases p with
  | phrase text =>
    rw [ofInput, mnemonic, RawText.splitPhrase_ofString, RawMnemonic.ofWords_map_ofString]
    rfl
  | words ws =>
    rw [ofInput, mnemonic, RawText.map_normalizeWord_ofString, RawMnemonic.ofWords_map_ofString]
    rfl
  | ready m =>
    rw [ofInput, mnemonic, Mnemonic.Input.mnemonic]
    split <;> rename_i h
    · rw [if_pos (show m.scheme = scheme from h)]
      rfl
    · rw [if_neg (show ¬ m.scheme = scheme from h)]
      rfl

theorem RawCodec.versionHash_ofMnemonic (m : Mnemonic) :
    versionHash (RawMnemonic.ofMnemonic m).phrase =
      .ok (Mnemonic.Electrum.versionHash m.phrase) := by
  have hphrase : (RawMnemonic.ofMnemonic m).phrase = .ofString m.phrase :=
    RawText.joinWords_map_ofString m.words
  rw [versionHash, hphrase, RawText.electrumNormalize_ofString, RawText.ofString,
    RawText.encode_ofChars, String.ofList_toList]
  rfl

theorem RawFailure.mapError_decodeNumber (count value : ℕ) :
    (Mnemonic.Bip39.decodeNumber count value).mapError RawFailure.plain =
      (Mnemonic.Bip39.decodeNumber count value).mapError .ofError := by
  rw [Mnemonic.Bip39.decodeNumber]
  split <;> rfl

/-- **Without surrogates, a codec decodes** what `Mnemonic.Codec` says. -/
theorem RawCodec.decode_ofCodec (c : Mnemonic.Codec) (p : Mnemonic.Input) :
    (ofCodec c).decode (.ofInput p) = (c.decode p).mapError .ofError := by
  have hcount (m : Mnemonic) : (RawMnemonic.ofMnemonic m).words.length = m.words.length :=
    List.length_map _
  have hindices (l : WordList) (m : Mnemonic) :
      (RawWordList.ofWordList l).indices (RawMnemonic.ofMnemonic m).words =
        (l.indices m.words).mapError .ofError := RawWordList.indices_ofWordList _ _
  rw [decode, RawInput.mnemonic_ofInput, ofCodec]
  cases c with
  | bip39 l =>
    rw [Mnemonic.Codec.decode, Mnemonic.Bip39.decode, Mnemonic.Codec.scheme, Mnemonic.Codec.words]
    cases p.mnemonic .bip39 with
    | error e => rfl
    | ok m =>
      simp only [Except.mapError, Except.map, ok_bind, hcount, Mnemonic.Bip39.decodeWords]
      split
      · rw [hindices]
        cases l.indices m.words with
        | error e => rfl
        | ok is => exact RawFailure.mapError_decodeNumber _ _
      · rfl
  | electrum l v =>
    rw [Mnemonic.Codec.decode, Mnemonic.Electrum.decode, Mnemonic.Codec.scheme, Mnemonic.Codec.words]
    cases p.mnemonic .electrum with
    | error e => rfl
    | ok m =>
      simp only [Except.mapError, Except.map, ok_bind, hcount, Mnemonic.Electrum.decodeMnemonic,
        wordsVersion, Mnemonic.Electrum.wordsVersion, versionHash_ofMnemonic]
      split
      · rw [hindices]
        cases l.indices m.words with
        | error e => rfl
        | ok is =>
          cases Mnemonic.Electrum.versionOf (Mnemonic.Electrum.versionHash m.phrase) with
          | none => rfl
          | some v => rfl
      · rfl

/-- **Without surrogates, validation** says what `Mnemonic.Codec` says. -/
theorem RawCodec.validate_ofCodec (c : Mnemonic.Codec) (p : Mnemonic.Input) :
    (ofCodec c).validate (.ofInput p) = (c.validate p).mapError .ofError := by
  rw [validate, decode_ofCodec, Mnemonic.Codec.validate]
  cases c.decode p with
  | ok bs => rfl
  | error e =>
    simp only [Except.mapError, RawFailure.kind_ofError]
    split <;> rfl

end Airgap
