import Airgap.Proofs.Mnemonic.Electrum
import Airgap.Proofs.Session.Rolls
import Airgap.Proofs.Session.Saying

/-!
# From rolls to a mnemonic

* `exists_gathered`: rolls that are enough lead to a session that took them in.
* `onto_run`, `onto_finish`: what is said from then on, and whether it comes to a mnemonic.
* `onto_showEntropy_bip39`, `onto_showEntropy_electrum`: what a session that goes on shows.
* `mnemonic_of_rolls`: the mnemonic that is shown stands for the first bits of the rolls.
-/

namespace Airgap.Session

open Entropy (Collector byteBits number)
open Entropy.Collector (Fed)
open Mnemonic (Bip39.encode Bip39.decode Codec Scheme)
open Saying

/-! ## The rolls of a call -/

/-- The fresh session of a call. -/
def freshSession (target : ℕ) : Collector :=
  ⟨.d6, target, false, .empty, none, false, 0, 0, false⟩

/-- The session after its rolls, and what is said until then. -/
def gather (o : Options) (fresh : Collector) (lines : List String) : Except Error Collector × String :=
  if o.demo then (demonstrate fresh, "") else converse fresh lines

theorem targetBits_pos (scheme : Scheme) : 0 < targetBits scheme := by cases scheme <;> decide

theorem start_eq (o : Options) (settings : Settings) :
    start o settings = .ok (Codec.ofScheme (o.scheme.getD settings.scheme) .english,
      freshSession (targetBits (o.scheme.getD settings.scheme))) := by
  have hcreate := @Collector.create_eq .d6 _ (targetBits_pos (o.scheme.getD settings.scheme)) none
    (by decide)
  rw [start, hcreate]
  rfl

/-- Rolls that are enough lead to a session that took them in. -/
theorem exists_gathered (o : Options) {target : ℕ} (htarget : 0 < target) {lines : List String}
    (hlines : o.demo = false → ∀ line ∈ lines, ∃ roll, readRoll line = .ok roll)
    (hreached : target ≤ (rollBits (sessionRolls o target lines)).length) :
    ∃ c said, gather o (freshSession target) lines = (.ok c, said) ∧
      Fed (freshSession target) c (Entropy.Source.d6.values (sessionRolls o target lines)) := by
  have hstart : Fed (freshSession target) (freshSession target) [] := Fed.start rfl htarget
  rw [gather]
  rw [sessionRolls] at hreached ⊢
  rcases Bool.eq_false_or_eq_true o.demo with hdemo | hdemo
  · obtain ⟨c, hc, hfed⟩ := exists_demonstrate hstart rfl
    rw [if_pos hdemo, if_pos hdemo, hc]
    exact ⟨c, "", rfl, hfed⟩
  · have htyped : ¬ o.demo = true := Bool.eq_false_iff.mp hdemo
    rw [if_neg htyped] at hreached
    obtain ⟨c, hc, hfed⟩ := exists_converse hstart rfl rfl (hlines hdemo) hreached
    rw [if_neg htyped, if_neg htyped]
    exact ⟨c, (converse (freshSession target) lines).2, Prod.ext hc rfl, hfed⟩

/-! ## What is said -/

theorem onto_run {o : Options} {lookup : String → Option String} {settings : Settings}
    (hsettings : Settings.ofVariables lookup = .ok settings) {codec : Codec} {fresh c : Collector}
    (hstart : start o settings = .ok (codec, fresh)) {lines : List String} {said : String}
    (hgather : gather o fresh lines = (.ok c, said)) (rounds : ℤ) :
    transcript o lookup lines rounds =
      onto (finish codec settings.network o rounds c) said := by
  show onto (run o lookup lines rounds) "" = _
  rw [run, hsettings, onto_bind, onto_quietly]
  dsimp only
  rw [hstart, onto_bind, onto_quietly]
  dsimp only
  rw [gather] at hgather
  split at hgather
  · rename_i hdemo
    obtain ⟨hc, rfl⟩ := Prod.mk.inj hgather
    rw [if_pos hdemo, onto_bind, onto_quietly, hc]
  · rename_i hdemo
    rw [if_neg hdemo, hgather, onto_bind, onto_say, String.empty_append]
    dsimp only
    rw [onto_bind, onto_quietly]

/-- What is said of a session and its report, after all that was said before. -/
def opening (said : String) (c : Collector) (report : Health.Report Float) : String :=
  said ++ s!"Collected {c.target} bits from {c.events} rolls ({c.discarded} discarded)\n" ++
    (report.summary ++ "\n")

/-- What is left of a session that goes on. -/
def showEntropy (codec : Codec) (network : Network) (o : Options) (rounds : ℤ) (entropy : Bytes) :
    Saying ℕ := do
  let m ← mnemonicOf codec entropy
  showWallet codec network o rounds m

/-- A session whose rolls do not pass goes no further unless it is a demonstration. -/
theorem onto_finish {c : Collector} {report : Health.Report Float} {entropy : Bytes}
    (hreport : c.healthCheck = .ok report) (hentropy : c.entropyBytes (some .right) = .ok entropy)
    (codec : Codec) (network : Network) (o : Options) (rounds : ℤ) (said : String) :
    onto (finish codec network o rounds c) said =
      if report.passes = false ∧ o.demo = false then
        (.ok 1, opening said c report ++ "\nRolls look non-random; check the die and roll again.\n")
      else onto (showEntropy codec network o rounds entropy) (opening said c report) := by
  rw [finish, onto_bind, onto_say]
  dsimp only
  rw [onto_bind, hreport, onto_quietly]
  dsimp only
  rw [onto_bind, onto_say]
  dsimp only
  rw [onto_bind, hentropy, onto_quietly]
  dsimp only
  simp only [Bool.and_eq_true, Bool.not_eq_true']
  split
  · rfl
  · rfl

/-! ## Mnemonics -/

/-- Entropy of 128 bits, and the words that it is written in. -/
theorem exists_encoded {entropy : Bytes} {bits : List Bool} (hsize : entropy.length = 16)
    (hbits : bits.length = 128) (hnumber : entropy.toNat = number bits) :
    byteBits entropy = bits ∧ ∃ m, Bip39.encode .english entropy = .ok m ∧
      Bip39.decode .english (.ready m) = .ok entropy := by
  have hm := Mnemonic.Bip39.encode_eq .english (w := 4) (by decide) (by decide) hsize
  refine ⟨?_, _, hm, ?_⟩
  · apply Entropy.number_inj
    · rw [Entropy.length_byteBits, hsize, hbits]
    · rw [Entropy.number_byteBits, hnumber]
  · exact (Mnemonic.Bip39.decode_eq_ok_iff_encode WordList.spelled_english).mpr
      ⟨_, _, Mnemonic.mnemonic_ofWords _ _, hm, rfl⟩

/-- Entropy of 132 bits in whole bytes is the number that a search for twelve words begins with. -/
theorem chooseCount_of_number {entropy : Bytes} {bits : List Bool} (hsize : entropy.length = 17)
    (hbits : bits.length = 132) (hnumber : entropy.toNat = number bits) :
    Mnemonic.Electrum.chooseCount entropy none = .ok (12, entropy) ∧
      entropy.toNat % Mnemonic.phrases 12 = number bits := by
  have hlt := Entropy.number_lt bits
  rw [hbits] at hlt
  refine ⟨?_, ?_⟩
  · rw [Mnemonic.Electrum.chooseCount, hsize]
    rfl
  · rw [hnumber, Mnemonic.phrases_eq]
    exact Nat.mod_eq_of_lt hlt

/-- What is said of an Electrum search. -/
theorem onto_mnemonicOf_electrum (l : WordList) (v : Mnemonic.SeedVersion) (entropy : Bytes)
    (said : String) : onto (mnemonicOf (.electrum l v) entropy) said =
      match Mnemonic.Electrum.generate l v entropy none with
      | .ok (m, k) => (.ok m, said ++ s!"Electrum search took {k} iterations\n")
      | .error e => (.error e, said) := by
  rw [mnemonicOf, onto_bind, onto_quietly]
  rcases Mnemonic.Electrum.generate l v entropy none with e | ⟨m, k⟩
  · rfl
  · rfl

/-- A BIP39 session that goes on shows the words of its bits. -/
theorem onto_showEntropy_bip39 {entropy : Bytes} {bits : List Bool} (hsize : entropy.length = 16)
    (hbits : bits.length = 128) (hnumber : entropy.toNat = number bits) (network : Network) (o : Options)
    (rounds : ℤ) (said : String) : byteBits entropy = bits ∧
      ∃ m result rest, Bip39.decode .english (.ready m) = .ok entropy ∧
        onto (showEntropy (.bip39 .english) network o rounds entropy) said =
          (result, said ++ shownWords m ++ rest) := by
  obtain ⟨hbytes, m, hm, hdecode⟩ := exists_encoded hsize hbits hnumber
  have hmade : onto (mnemonicOf (.bip39 .english) entropy) said = (.ok m, said) := by
    rw [mnemonicOf, hm, onto_quietly]
  obtain ⟨result, rest, hshown⟩ := onto_showWallet (.bip39 .english) network o rounds m said
  refine ⟨hbytes, m, result, rest, hdecode, ?_⟩
  rw [showEntropy, onto_bind, hmade]
  exact hshown

/-- An Electrum session that goes on ends in the failure of its search, or shows the twelve words that the
search has found. -/
theorem onto_showEntropy_electrum {entropy : Bytes} {bits : List Bool} (hsize : entropy.length = 17)
    (hbits : bits.length = 132) (hnumber : entropy.toNat = number bits) (network : Network) (o : Options)
    (rounds : ℤ) (said : String) :
    (∃ e, Mnemonic.Electrum.generate .english .segwit entropy none = .error e ∧
      onto (showEntropy (.electrum .english .segwit) network o rounds entropy) said =
        (.error e, said)) ∨
    ∃ m k result rest, Mnemonic.Electrum.generate .english .segwit entropy none = .ok (m, k) ∧
      m.words.length = 12 ∧
      (∃ data, Mnemonic.Electrum.decode .english (.ready m) = .ok data ∧ data.length = 17 ∧
        data.toNat = number bits + k) ∧
      onto (showEntropy (.electrum .english .segwit) network o rounds entropy) said =
        (result, said ++ s!"Electrum search took {k} iterations\n" ++ shownWords m ++ rest) := by
  rw [showEntropy, onto_bind, onto_mnemonicOf_electrum]
  cases hm : Mnemonic.Electrum.generate .english .segwit entropy none with
  | error e => exact .inl ⟨e, rfl, rfl⟩
  | ok made =>
    obtain ⟨m, k⟩ := made
    have hfits : Mnemonic.Electrum.Fits entropy none 12 := ⟨by decide, .inl ⟨rfl, hsize⟩⟩
    obtain ⟨hwords, hlt, hdecode⟩ :=
      Mnemonic.Electrum.of_generate WordList.spelled_english (.inr rfl) hfits hm
    have hbegin : Mnemonic.Electrum.start 12 entropy = number bits := by
      rw [← (chooseCount_of_number hsize hbits hnumber).2, Mnemonic.phrases_eq,
        Mnemonic.Electrum.start]
    obtain ⟨result, rest, hshown⟩ := onto_showWallet (.electrum .english .segwit) network o rounds m
      (said ++ s!"Electrum search took {k} iterations\n")
    rw [hbegin] at hlt hdecode
    refine .inr ⟨m, k, result, rest, rfl, hwords, ⟨_, hdecode, Bytes.length_ofNat _ _, ?_⟩, hshown⟩
    exact Bytes.toNat_ofNat_of_lt (Nat.lt_trans hlt (by decide))

/-! ## The mnemonic of a session -/

/-- **The mnemonic that is shown stands for the first bits of the rolls.** When the rolls of a session,
typed or fixed, have the bits that its scheme asks for, the session is finalized and its right-aligned
bytes write the first of these bits. If the session then goes on, a BIP39 mnemonic is shown that decodes to
just these bits. For Electrum the search begins with their number, of which nothing is cut off; it fails
and nothing is shown, or twelve words are shown that decode to a number as far on as the search says. -/
theorem mnemonic_of_rolls (o : Options) {lookup : String → Option String} {settings : Settings}
    (hsettings : Settings.ofVariables lookup = .ok settings) {lines : List String}
    (hlines : o.demo = false → ∀ line ∈ lines, ∃ roll, readRoll line = .ok roll) (rounds : ℤ)
    {scheme : Scheme} (hscheme : o.scheme.getD settings.scheme = scheme)
    (hreached : targetBits scheme ≤ (rollBits (sessionRolls o (targetBits scheme) lines)).length) :
    let bits := (rollBits (sessionRolls o (targetBits scheme) lines)).take (targetBits scheme)
    ∃ c said report entropy,
      gather o (freshSession (targetBits scheme)) lines = (.ok c, said) ∧
      c.healthCheck = .ok report ∧ c.entropyBytes (some .right) = .ok entropy ∧
      entropy.length = (targetBits scheme + 7) / 8 ∧ entropy.toNat = number bits ∧
      (report.passes = false → o.demo = false → transcript o lookup lines rounds =
        (.ok 1,
          opening said c report ++ "\nRolls look non-random; check the die and roll again.\n")) ∧
      (report.passes = true ∨ o.demo = true →
        (scheme = .bip39 → byteBits entropy = bits ∧
          ∃ m result rest, Bip39.decode .english (.ready m) = .ok entropy ∧
            transcript o lookup lines rounds =
              (result, opening said c report ++ shownWords m ++ rest)) ∧
        (scheme = .electrum →
          Mnemonic.Electrum.chooseCount entropy none = .ok (12, entropy) ∧
          entropy.toNat % Mnemonic.phrases 12 = number bits ∧
          ((∃ e, Mnemonic.Electrum.generate .english .segwit entropy none = .error e ∧
              transcript o lookup lines rounds = (.error e, opening said c report)) ∨
            ∃ m k result rest,
              Mnemonic.Electrum.generate .english .segwit entropy none = .ok (m, k) ∧
              m.words.length = 12 ∧
              (∃ data, Mnemonic.Electrum.decode .english (.ready m) = .ok data ∧
                data.length = 17 ∧ data.toNat = number bits + k) ∧
              transcript o lookup lines rounds = (result, opening said c report ++
                s!"Electrum search took {k} iterations\n" ++ shownWords m ++ rest)))) := by
  intro bits
  obtain ⟨c, said, hgather, hfed⟩ :=
    exists_gathered o (targetBits_pos scheme) hlines hreached
  obtain ⟨entropy, report, hentropy, hsize, hnumber, hreport⟩ := hfed.exists_report hreached
    (by cases scheme <;> decide)
  have hlength : bits.length = targetBits scheme := by
    rw [List.length_take, Nat.min_eq_left hreached]
  have hstart := start_eq o settings
  rw [hscheme] at hstart
  have htranscript := (onto_run hsettings hstart hgather rounds).trans
    (onto_finish hreport hentropy _ settings.network o rounds said)
  refine ⟨c, said, report, entropy, hgather, hreport, hentropy, hsize, hnumber,
    fun hfails hdemo => ?_, fun hgoes => ⟨?_, ?_⟩⟩
  · rw [htranscript, if_pos ⟨hfails, hdemo⟩]
  all_goals
    have hpasses : ¬ (report.passes = false ∧ o.demo = false) := by
      rintro ⟨hfails, htyped⟩
      rcases hgoes with hpasses | hdemo
      · exact Bool.false_ne_true (hfails.symm.trans hpasses)
      · exact Bool.false_ne_true (htyped.symm.trans hdemo)
    rw [if_neg hpasses] at htranscript
    rintro rfl
    rw [htranscript]
  · exact onto_showEntropy_bip39 hsize hlength hnumber _ _ _ _
  · obtain ⟨hcount, hstarts⟩ := chooseCount_of_number hsize hlength hnumber
    exact ⟨hcount, hstarts, onto_showEntropy_electrum hsize hlength hnumber _ _ _ _⟩

/-- Lines that are no rolls, a roll that is dropped, and sixty-six times the highest roll that is kept, whose
report decides whether the session goes on; then the fixed rolls under both schemes, which go on whatever
their report says. -/
theorem mnemonic_of_rolls_thrice :
    let typed : Options := ⟨some .electrum, false, ""⟩
    let shown (scheme : Scheme) : Options := ⟨some scheme, true, ""⟩
    let lines := "seven" :: "" :: "5" :: List.replicate 66 "4"
    Settings.ofVariables (fun _ => none) = .ok ⟨.mainnet, .bip39, .warning⟩ ∧
    (∀ line ∈ lines, ∃ roll, readRoll line = .ok roll) ∧
    132 ≤ (rollBits (sessionRolls typed 132 lines)).length ∧
    128 ≤ (rollBits (sessionRolls (shown .bip39) 128 [])).length ∧
    132 ≤ (rollBits (sessionRolls (shown .electrum) 132 [])).length ∧
    (∃ c said report entropy, gather typed (freshSession 132) lines = (.ok c, said) ∧
      c.entropyBytes (some .right) = .ok entropy ∧ entropy.toNat = 2 ^ 132 - 1 ∧
      (transcript typed (fun _ => none) lines 1 = (.ok 1,
          opening said c report ++ "\nRolls look non-random; check the die and roll again.\n") ∨
        Mnemonic.Electrum.chooseCount entropy none = .ok (12, entropy) ∧
          entropy.toNat % Mnemonic.phrases 12 = 2 ^ 132 - 1)) ∧
    (∃ c said report entropy m result rest,
      gather (shown .bip39) (freshSession 128) [] = (.ok c, said) ∧
      c.entropyBytes (some .right) = .ok entropy ∧
      entropy.toNat = 0x8c5a3168c5a3168c5a3168c5a3168c5a ∧
      byteBits entropy = (rollBits (fixedRolls 128)).take 128 ∧
      Bip39.decode .english (.ready m) = .ok entropy ∧
      transcript (shown .bip39) (fun _ => none) [] 1 =
        (result, opening said c report ++ shownWords m ++ rest)) ∧
    ∃ c said report entropy, gather (shown .electrum) (freshSession 132) [] = (.ok c, said) ∧
      c.entropyBytes (some .right) = .ok entropy ∧
      Mnemonic.Electrum.chooseCount entropy none = .ok (12, entropy) ∧
      entropy.toNat % Mnemonic.phrases 12 = 0x8c5a3168c5a3168c5a3168c5a3168c5a3 ∧
      ((∃ e, Mnemonic.Electrum.generate .english .segwit entropy none = .error e ∧
          transcript (shown .electrum) (fun _ => none) [] 1 = (.error e, opening said c report)) ∨
        ∃ m k result rest,
          Mnemonic.Electrum.generate .english .segwit entropy none = .ok (m, k) ∧
          m.words.length = 12 ∧
          (∃ data, Mnemonic.Electrum.decode .english (.ready m) = .ok data ∧ data.length = 17 ∧
            data.toNat = 0x8c5a3168c5a3168c5a3168c5a3168c5a3 + k) ∧
          transcript (shown .electrum) (fun _ => none) [] 1 = (result, opening said c report ++
            s!"Electrum search took {k} iterations\n" ++ shownWords m ++ rest)) := by
  intro typed shown lines
  have hsettings : Settings.ofVariables (fun _ => none) = .ok ⟨.mainnet, .bip39, .warning⟩ := by
    decide
  have hlines : ∀ line ∈ lines, ∃ roll, readRoll line = .ok roll := by
    have hread : (lines.all fun line => (readRoll line).isOk) = true := by decide
    exact fun line hline => isOk_iff.mp (List.all_eq_true.mp hread line hline)
  have hreached : 132 ≤ (rollBits (sessionRolls typed 132 lines)).length := by
    set_option maxRecDepth 20000 in decide
  have hbits : number ((rollBits (sessionRolls typed 132 lines)).take 132) = 2 ^ 132 - 1 := by
    decide +kernel
  have hreached39 : 128 ≤ (rollBits (sessionRolls (shown .bip39) 128 [])).length := by
    decide +kernel
  have hbits39 : number ((rollBits (sessionRolls (shown .bip39) 128 [])).take 128) =
      0x8c5a3168c5a3168c5a3168c5a3168c5a := by decide +kernel
  have hreachedElectrum : 132 ≤ (rollBits (sessionRolls (shown .electrum) 132 [])).length := by
    decide +kernel
  have hbitsElectrum : number ((rollBits (sessionRolls (shown .electrum) 132 [])).take 132) =
      0x8c5a3168c5a3168c5a3168c5a3168c5a3 := by decide +kernel
  refine ⟨hsettings, hlines, hreached, hreached39, hreachedElectrum, ?_, ?_, ?_⟩
  · obtain ⟨c, said, report, entropy, hgather, -, hentropy, -, hnumber, hfails, hgoes⟩ :=
      @mnemonic_of_rolls typed _ _ hsettings lines (fun _ => hlines) 1 .electrum rfl hreached
    refine ⟨c, said, report, entropy, hgather, hentropy, hnumber.trans hbits, ?_⟩
    cases hpasses : report.passes with
    | false => exact .inl (hfails hpasses rfl)
    | true =>
      obtain ⟨hcount, hstart, -⟩ := (hgoes (.inl hpasses)).2 rfl
      exact .inr ⟨hcount, hstart.trans hbits⟩
  · obtain ⟨c, said, report, entropy, hgather, -, hentropy, -, hnumber, -, hgoes⟩ :=
      @mnemonic_of_rolls (shown .bip39) _ _ hsettings [] nofun 1 .bip39 rfl hreached39
    obtain ⟨hbytes, m, result, rest, hdecode, hshown⟩ := (hgoes (.inr rfl)).1 rfl
    exact ⟨c, said, report, entropy, m, result, rest, hgather, hentropy, hnumber.trans hbits39, hbytes,
      hdecode, hshown⟩
  · obtain ⟨c, said, report, entropy, hgather, -, hentropy, -, -, -, hgoes⟩ :=
      @mnemonic_of_rolls (shown .electrum) _ _ hsettings [] nofun 1 .electrum rfl hreachedElectrum
    obtain ⟨hcount, hstart, hsearch⟩ := (hgoes (.inr rfl)).2 rfl
    refine ⟨c, said, report, entropy, hgather, hentropy, hcount, hstart.trans hbitsElectrum, ?_⟩
    rcases hsearch with hnone | ⟨m, k, result, rest, hm, hwords, ⟨data, hdata, hsize, hvalue⟩, hshown⟩
    · exact .inl hnone
    · refine .inr ⟨m, k, result, rest, hm, hwords, ⟨data, hdata, hsize, ?_⟩, hshown⟩
      rw [← hbitsElectrum]
      exact hvalue

end Airgap.Session
