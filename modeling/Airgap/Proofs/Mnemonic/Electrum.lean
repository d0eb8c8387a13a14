import Airgap.Mnemonic.Electrum
import Airgap.Proofs.Mnemonic.Bip39

/-!
# The first suitable phrase

* `Good`: the numbers that a search stops at; `search_eq_some_iff`, `search_eq_none_iff`.
* `Fits`: the entropy that is accepted for a number of words, with `generate_eq`.
* `versionOf_eq`, `decode_ofWords`: what a found phrase says about itself.
* `generate_first`: the first suitable phrase is made, if there is one.
-/

namespace Airgap.Mnemonic.Electrum

variable {l : WordList} {v : SeedVersion} {count n : ℕ}

/-! ## Search -/

/-- Whether the phrase of a number has the tag of a version and is no BIP39 mnemonic. -/
def Good (l : WordList) (v : SeedVersion) (count n : ℕ) : Prop :=
  hasTag (versionHash (phraseOf l count n)) v = true ∧
    Bip39.accepts l (.phrase (phraseOf l count n)) = false

theorem isSuitable_iff : isSuitable l v count n = true ↔ Good l v count n := by
  rw [isSuitable, Good, Bool.and_eq_true, Bool.not_eq_true']

theorem search_eq_none_iff {left passed : ℕ} : search l v count left n passed = none ↔
    ∀ x, n ≤ x → x < n + left → ¬Good l v count x := by
  induction left generalizing n passed with
  | zero =>
    refine ⟨fun _ x hx hlt => ?_, fun _ => rfl⟩
    omega
  | succ left ih =>
    rw [search]
    by_cases hn : Good l v count n
    · rw [if_pos (isSuitable_iff.mpr hn)]
      exact ⟨fun h => (nomatch h), fun h => absurd hn (h n (Nat.le_refl n) (by omega))⟩
    · rw [if_neg fun h => hn (isSuitable_iff.mp h), ih]
      constructor
      · intro h x hx hlt
        rcases Nat.eq_or_lt_of_le hx with rfl | hx
        · exact hn
        · exact h x hx (by omega)
      · intro h x hx hlt
        exact h x (by omega) (by omega)

/-- A search finds the least good number of its range and how far away it is. -/
theorem search_eq_some_iff {left passed x k : ℕ} : search l v count left n passed = some (x, k) ↔
    n ≤ x ∧ x < n + left ∧ k = passed + (x - n) ∧ Good l v count x ∧
      ∀ y, n ≤ y → y < x → ¬Good l v count y := by
  induction left generalizing n passed with
  | zero =>
    refine ⟨fun h => (nomatch h), ?_⟩
    rintro ⟨hx, hlt, -⟩
    omega
  | succ left ih =>
    rw [search]
    by_cases hn : Good l v count n
    · rw [if_pos (isSuitable_iff.mpr hn), Option.some.injEq, Prod.mk.injEq]
      constructor
      · rintro ⟨rfl, rfl⟩
        exact ⟨Nat.le_refl _, by omega, by omega, hn, fun y hy hlt => by omega⟩
      · rintro ⟨hx, -, hk, -, hleast⟩
        have hxn : x = n := by
          by_contra hne
          exact hleast n (Nat.le_refl n) (by omega) hn
        exact ⟨hxn.symm, by omega⟩
    · rw [if_neg fun h => hn (isSuitable_iff.mp h), ih]
      constructor
      · rintro ⟨hx, hlt, hk, hgood, hleast⟩
        refine ⟨by omega, by omega, by omega, hgood, fun y hy hyx => ?_⟩
        rcases Nat.eq_or_lt_of_le hy with rfl | hy
        · exact hn
        · exact hleast y hy hyx
      · rintro ⟨hx, hlt, hk, hgood, hleast⟩
        have hne : x ≠ n := by
          rintro rfl
          exact hn hgood
        exact ⟨by omega, by omega, by omega, hgood, fun y hy hyx => hleast y (by omega) hyx⟩

/-! ## Entropy -/

/-- Whether entropy is accepted for `n` words: of the exact size without a count, or of at least that
size with one. -/
def Fits (entropy : Bytes) (count : Option ℤ) (n : ℕ) : Prop :=
  n ∈ wordCounts ∧ (count = none ∧ entropy.length = (11 * n + 7) / 8 ∨
    count = some (n : ℤ) ∧ (11 * n + 7) / 8 ≤ entropy.length)

/-- The number that a search begins with. -/
def start (n : ℕ) (entropy : Bytes) : ℕ := Bytes.toNat entropy % 2 ^ (11 * n)

theorem entropySize_natCast (n : ℕ) : entropySize n = ((11 * n + 7) / 8 : ℕ) := by
  rw [entropySize, WordList.bitsPerWord]
  omega

theorem phrases_dvd_capacity (n : ℕ) : 2 ^ (11 * n) ∣ Bytes.capacity ((11 * n + 7) / 8) := by
  rw [Bytes.capacity_eq, show 256 = 2 ^ 8 from rfl, ← Nat.pow_mul]
  exact Nat.pow_dvd_pow 2 (by omega)

theorem chooseCount_eq {entropy : Bytes} {count : Option ℤ} (h : Fits entropy count n) :
    ∃ used, chooseCount entropy count = .ok (n, used) ∧
      Bytes.toNat used % 2 ^ (11 * n) = start n entropy := by
  obtain ⟨hn, ⟨rfl, hlength⟩ | ⟨rfl, hlength⟩⟩ := h
  · refine ⟨entropy, ?_, rfl⟩
    have hfind : (wordCounts.find? fun m : ℕ => entropySize m = entropy.length) = some n := by
      rw [hlength]
      simp only [wordCounts, List.mem_cons, List.not_mem_nil, or_false] at hn
      rcases hn with rfl | rfl | rfl | rfl | rfl <;> rfl
    rw [chooseCount, hfind]
  · refine ⟨entropy.drop (entropy.length - (11 * n + 7) / 8), ?_, ?_⟩
    · rw [chooseCount, Int.toNat_natCast, if_pos hn, entropySize_natCast, Int.toNat_natCast]
      simp only [if_neg (Nat.not_lt.mpr hlength)]
    · rw [Bytes.toNat_drop, Nat.sub_sub_self hlength, Nat.mod_mod_of_dvd _ (phrases_dvd_capacity n),
        start]

theorem canGenerate_iff : v.canGenerate = true ↔ v = .standard ∨ v = .segwit := by
  cases v <;> decide

/-- Where a search begins and ends. -/
theorem generate_eq (l : WordList) (hv : v = .standard ∨ v = .segwit) {entropy : Bytes}
    {count : Option ℤ} (h : Fits entropy count n) : generate l v entropy count =
      match search l v n (2 ^ (11 * n) - start n entropy) (start n entropy) 0 with
      | some (x, k) => .ok (ofWords (l.wordsOf n x) .electrum, k)
      | none => .error .searchExhausted := by
  obtain ⟨used, hused, hstart⟩ := chooseCount_eq h
  rw [generate, canGenerate_iff.mpr hv, hused]
  simp only [Bool.not_true, Bool.false_eq_true, if_false, ok_bind, phrases_eq, hstart]
  rfl

/-! ## What a phrase says about itself -/

/-- Phrases of the versions that are made here have no other version. -/
theorem versionOf_eq (hv : v = .standard ∨ v = .segwit) {hash : Bytes} (h : hasTag hash v = true) :
    versionOf hash = some v := by
  rw [versionOf, SeedVersion.all]
  rcases hv with rfl | rfl
  · rw [List.find?_cons, h]
  · have hstandard : hasTag hash .standard = false := by
      rw [hasTag, show SeedVersion.segwit.tag.toList = ['1', '0', '0'] by decide] at h
      rw [hasTag, show SeedVersion.standard.tag.toList = ['0', '1'] by decide]
      cases hhex : (Bytes.toHex hash).toList with
      | nil => rfl
      | cons c cs =>
        rw [hhex, List.isPrefixOf_cons_cons, Bool.and_eq_true, beq_iff_eq] at h
        rw [List.isPrefixOf_cons_cons, ← h.1]
        rfl
    rw [List.find?_cons, hstandard, List.find?_cons, h]

theorem phrase_ofWords (hl : l.Spelled) (n x : ℕ) (scheme : Scheme) :
    (ofWords (l.wordsOf n x) scheme).phrase = phraseOf l n x := by
  rw [phrase, hl.words_ofWords, phraseOf]

theorem wordsVersion_ofWords (hl : l.Spelled) (n x : ℕ) :
    wordsVersion l (ofWords (l.wordsOf n x) .electrum) =
      .ok (versionOf (versionHash (phraseOf l n x))) := by
  rw [wordsVersion, hl.words_ofWords, hl.indices_wordsOf, phrase_ofWords hl]
  rfl

theorem seedVersion_ofWords (hl : l.Spelled) (n x : ℕ) :
    seedVersion l (.ready (ofWords (l.wordsOf n x) .electrum)) =
      .ok (versionOf (versionHash (phraseOf l n x))) := by
  rw [seedVersion, mnemonic_ofWords, ok_bind, wordsVersion_ofWords hl]

/-- A phrase with a version decodes to the number that it was made for. -/
theorem decode_ofWords (hl : l.Spelled) (hn : n ∈ wordCounts) {x : ℕ} (hx : x < 2 ^ (11 * n))
    (hversion : versionOf (versionHash (phraseOf l n x)) = some v) :
    decode l (.ready (ofWords (l.wordsOf n x) .electrum)) =
      .ok (Bytes.ofNat ((11 * n + 7) / 8) x) := by
  rw [← phrases_eq] at hx
  rw [decode, mnemonic_ofWords, ok_bind, decodeMnemonic, hl.words_ofWords, l.length_wordsOf,
    if_pos hn, hl.indices_wordsOf, wordsVersion_ofWords hl, hversion, entropySize_natCast,
    Int.toNat_natCast]
  simp only [ok_bind, numeral_placesOf, Nat.mod_eq_of_lt hx]
  rfl

/-! ## The first suitable phrase -/

theorem generate_eq_ok (l : WordList) (hv : v = .standard ∨ v = .segwit) {entropy : Bytes}
    {count : Option ℤ} (h : Fits entropy count n) {x : ℕ} (hx : start n entropy ≤ x)
    (hlt : x < 2 ^ (11 * n)) (hgood : Good l v n x)
    (hleast : ∀ y, start n entropy ≤ y → y < x → ¬Good l v n y) :
    generate l v entropy count =
      .ok (ofWords (l.wordsOf n x) .electrum, x - start n entropy) := by
  have hsearch : search l v n (2 ^ (11 * n) - start n entropy) (start n entropy) 0 =
      some (x, x - start n entropy) :=
    search_eq_some_iff.mpr ⟨hx, by omega, by omega, hgood, hleast⟩
  rw [generate_eq l hv h, hsearch]

/-- What a search that succeeded has made. -/
theorem of_generate (hl : l.Spelled) (hv : v = .standard ∨ v = .segwit) {entropy : Bytes}
    {count : Option ℤ} (h : Fits entropy count n) {m : Mnemonic} {k : ℕ}
    (hm : generate l v entropy count = .ok (m, k)) :
    m.words.length = n ∧ start n entropy + k < 2 ^ (11 * n) ∧
      decode l (.ready m) = .ok (Bytes.ofNat ((11 * n + 7) / 8) (start n entropy + k)) := by
  rw [generate_eq l hv h] at hm
  split at hm
  · rename_i x k' hsearch
    obtain ⟨hx, hlt, hk, hgood, -⟩ := search_eq_some_iff.mp hsearch
    obtain ⟨rfl, rfl⟩ := Prod.mk.inj (Except.ok.inj hm)
    have hsum : start n entropy + k' = x := by omega
    have hlimit : x < 2 ^ (11 * n) := by omega
    rw [hsum]
    exact ⟨by rw [hl.words_ofWords, l.length_wordsOf], hlimit,
      decode_ofWords hl h.1 hlimit (versionOf_eq hv hgood.1)⟩
  · cases hm

/-- **The first suitable phrase is made.** With the English list, for a version that is made here and
entropy that is accepted for `n` words, the search fails exactly if no number from its start on is good.
Otherwise it ends at the least good one: the phrase decodes to that number, has the version and is no
BIP39 mnemonic, and every start up to there leads to the same phrase. -/
theorem generate_first {v : SeedVersion} (hv : v = .standard ∨ v = .segwit) {entropy : Bytes}
    {count : Option ℤ} {n : ℕ} (h : Fits entropy count n) :
    ((∃ e, generate .english v entropy count = .error e ∧ e.kind = .parameter) ↔
      ∀ x, start n entropy ≤ x → x < 2 ^ (11 * n) → ¬Good .english v n x) ∧
    ((∃ x, start n entropy ≤ x ∧ x < 2 ^ (11 * n) ∧ Good .english v n x) →
      ∃ m k, generate .english v entropy count = .ok (m, k) ∧
        start n entropy + k < 2 ^ (11 * n) ∧ Good .english v n (start n entropy + k) ∧
        (∀ x, start n entropy ≤ x → x < start n entropy + k → ¬Good .english v n x) ∧
        (∃ data, decode .english (.ready m) = .ok data ∧ data.length = (11 * n + 7) / 8 ∧
          Bytes.toNat data = start n entropy + k) ∧
        seedVersion .english (.ready m) = .ok (some v) ∧
        Bip39.accepts .english (.phrase m.phrase) = false ∧
        ∀ entropy' count', Fits entropy' count' n → start n entropy ≤ start n entropy' →
          start n entropy' ≤ start n entropy + k →
          generate .english v entropy' count' =
            .ok (m, k - (start n entropy' - start n entropy))) := by
  have hstart : start n entropy < 2 ^ (11 * n) := Nat.mod_lt _ (Nat.two_pow_pos _)
  have hsum : start n entropy + (2 ^ (11 * n) - start n entropy) = 2 ^ (11 * n) := by omega
  have hgenerate := generate_eq .english hv h
  cases hsearch : search .english v n (2 ^ (11 * n) - start n entropy) (start n entropy) 0 with
  | none =>
    have hnone := search_eq_none_iff.mp hsearch
    rw [hsum] at hnone
    rw [hsearch] at hgenerate
    refine ⟨⟨fun _ => hnone, fun _ => ⟨_, hgenerate, rfl⟩⟩, fun ⟨x, hx, hlt, hgood⟩ => ?_⟩
    exact absurd hgood (hnone x hx hlt)
  | some found =>
    obtain ⟨y, k⟩ := found
    obtain ⟨hy, hlt, hk, hgood, hleast⟩ := search_eq_some_iff.mp hsearch
    rw [hsum] at hlt
    rw [Nat.zero_add] at hk
    have hyk : start n entropy + k = y := by omega
    have hversion := versionOf_eq hv hgood.1
    rw [hsearch] at hgenerate
    refine ⟨⟨fun ⟨e, he, _⟩ => ?_, fun hnone => absurd hgood (hnone y hy hlt)⟩, fun _ => ?_⟩
    · rw [hgenerate] at he
      exact nomatch he
    · refine ⟨_, k, hgenerate, ?_⟩
      rw [hyk]
      refine ⟨hlt, hgood, hleast, ?_, ?_, ?_, fun entropy' count' h' hle hle' => ?_⟩
      · refine ⟨_, decode_ofWords WordList.spelled_english h.1 hlt hversion, Bytes.length_ofNat _ _,
          Bytes.toNat_ofNat_of_lt ?_⟩
        exact lt_of_lt_of_le hlt (Nat.le_of_dvd (Bytes.capacity_pos _) (phrases_dvd_capacity n))
      · rw [seedVersion_ofWords WordList.spelled_english, hversion]
      · rw [phrase_ofWords WordList.spelled_english]
        exact hgood.2
      · rw [generate_eq_ok .english hv h' hle' hlt hgood fun z hz hzy => hleast z (by omega) hzy]
        congr 2
        omega

theorem generate_first_zeros : Fits (List.replicate 17 0) none 12 ∧
    ((∃ e, generate .english .segwit (List.replicate 17 0) none = .error e ∧ e.kind = .parameter) ∨
      ∃ m k, generate .english .segwit (List.replicate 17 0) none = .ok (m, k) ∧ k < 2 ^ 132 ∧
        Good .english .segwit 12 k ∧ seedVersion .english (.ready m) = .ok (some .segwit)) := by
  have hfits : Fits (List.replicate 17 0) none 12 := ⟨by decide, .inl ⟨rfl, rfl⟩⟩
  have hstart : start 12 (List.replicate 17 0) = 0 := by decide
  obtain ⟨hfail, hfind⟩ := generate_first (.inr rfl) hfits
  refine ⟨hfits, ?_⟩
  by_cases hgood : ∃ x, start 12 (List.replicate 17 0) ≤ x ∧ x < 2 ^ (11 * 12) ∧
      Good .english .segwit 12 x
  · obtain ⟨m, k, hm, hlt, hgood, -, -, hversion, -⟩ := hfind hgood
    rw [hstart, Nat.zero_add] at hlt hgood
    exact .inr ⟨m, k, hm, hlt, hgood, hversion⟩
  · exact .inl (hfail.mpr fun x hx hlt h => hgood ⟨x, hx, hlt, h⟩)

end Airgap.Mnemonic.Electrum
