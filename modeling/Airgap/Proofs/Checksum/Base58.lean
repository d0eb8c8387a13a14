import Airgap.Checksum.Check
import Airgap.Proofs.Bytes
import Airgap.Proofs.Outcome
import Airgap.Proofs.Text.Split
import Mathlib.Data.List.GetD
import Mathlib.Data.List.TakeWhile

/-!
# Base-58 text is canonical

* `digits_ofDigits`: digits without a leading zero are the digits of their number.
* `decode_eq_ok_iff`: a text is read as a byte string exactly if the byte string is written so.
* `decode_encode`, `encode_decode`: the same with a checksum, where the text may have blanks at its
  ends.
* `base58Check_bijection`: the payloads of at least one byte and the texts that are read, with the
  layout of such a text.
-/

namespace Airgap.Checksum

/-! ## Runs at the start of a list -/

section Runs

variable {α : Type} [DecidableEq α]

theorem exists_replicate_append (a : α) (l : List α) :
    ∃ n rest, l = List.replicate n a ++ rest ∧ rest.head? ≠ some a := by
  induction l with
  | nil => exact ⟨0, [], rfl, by simp⟩
  | cons b l ih =>
    by_cases hb : b = a
    · obtain ⟨n, rest, hl, hrest⟩ := ih
      exact ⟨n + 1, rest, by rw [hb, hl, List.replicate_succ, List.cons_append], hrest⟩
    · exact ⟨0, b :: l, rfl, by simpa using hb⟩

variable {a : α} {rest : List α}

theorem dropWhile_replicate_append (n : ℕ) (h : rest.head? ≠ some a) :
    (List.replicate n a ++ rest).dropWhile (· == a) = rest := by
  have hrun : ∀ b ∈ List.replicate n a, (b == a) = true := fun b hb =>
    beq_iff_eq.mpr (List.eq_of_mem_replicate hb)
  rw [List.dropWhile_append_of_pos hrun, List.dropWhile_beq_eq_self_of_head?_ne h]

theorem takeWhile_replicate_append (n : ℕ) (h : rest.head? ≠ some a) :
    (List.replicate n a ++ rest).takeWhile (· == a) = List.replicate n a := by
  have happ := List.takeWhile_append_dropWhile (p := (· == a)) (l := List.replicate n a ++ rest)
  rw [dropWhile_replicate_append n h] at happ
  exact List.append_cancel_right happ

end Runs

/-! ## Digits -/

theorem ofDigits_concat (ds : List ℕ) (d : ℕ) : ofDigits (ds ++ [d]) = 58 * ofDigits ds + d := by
  simp only [ofDigits, List.foldl_append, List.foldl_cons, List.foldl_nil]

theorem digits_ofDigits {ds : List ℕ} (hlt : ∀ d ∈ ds, d < 58) (h : ds.head? ≠ some 0) :
    digits (ofDigits ds) = ds := by
  induction ds using List.reverseRecOn with
  | nil => exact digits_zero
  | append_singleton ds d ih =>
    have hd : d < 58 := hlt d (by simp)
    have ih := ih (fun e he => hlt e (List.mem_append_left _ he)) fun h0 => h (by simp [h0])
    have hpos : 0 < 58 * ofDigits ds + d := by
      by_contra hzero
      have hds : ofDigits ds = 0 := by omega
      rw [hds, digits_zero] at ih
      subst ih
      exact h (by simp; omega)
    rw [ofDigits_concat, digits_of_pos hpos, show (58 * ofDigits ds + d) / 58 = ofDigits ds by omega,
      show (58 * ofDigits ds + d) % 58 = d by omega, ih]

theorem lt_of_mem_digits {n d : ℕ} (hd : d ∈ digits n) : d < 58 := by
  induction n using Nat.strongRecOn with
  | ind n ih =>
    by_cases hn : n = 0
    · rw [hn, digits_zero] at hd
      exact absurd hd List.not_mem_nil
    · rw [digits_of_pos (by omega), List.mem_append, List.mem_singleton] at hd
      rcases hd with hd | rfl
      · exact ih (n / 58) (by omega) hd
      · omega

/-- The digits of a number do not start with a zero. -/
theorem head?_digits (n : ℕ) : (digits n).head? ≠ some 0 := by
  induction n using Nat.strongRecOn with
  | ind n ih =>
    by_cases hn : n = 0
    · rw [hn, digits_zero]
      simp
    · have hinit := ih (n / 58) (by omega)
      rw [digits_of_pos (by omega), List.head?_append]
      cases hds : (digits (n / 58)).head? with
      | some d =>
        rw [hds] at hinit
        simpa using hinit
      | none =>
        have hdiv := ofDigits_digits (n / 58)
        rw [List.head?_eq_none_iff.mp hds] at hdiv
        have : n / 58 = 0 := hdiv.symm
        simp
        omega

namespace Base58

/-! ## Characters -/

theorem digitValue?_digitChar : ∀ d < 58, digitValue? (digitChar d) = some d := by decide

theorem digitChar_toNat_lt : ∀ d < 58, (digitChar d).toNat < 0x80 := by decide

theorem isBlank_digitChar : ∀ d < 58, Text.isBlank (digitChar d) = false := by decide

theorem digitChar_ne_one : ∀ d < 58, digitChar d = '1' → d = 0 := by decide

theorem eq_digitChar {c : Char} {d : ℕ} (h : digitValue? c = some d) : d < 58 ∧ c = digitChar d := by
  rw [digitValue?, List.idxOf?, List.findIdx?_eq_some_iff_getElem] at h
  obtain ⟨hd, hc, -⟩ := h
  have hlt : d < 58 := hd
  refine ⟨hlt, ?_⟩
  rw [digitChar, List.getD_eq_getElem _ _ hd]
  exact (beq_iff_eq.mp hc).symm

theorem head?_map_digitChar {ds : List ℕ} (hlt : ∀ d ∈ ds, d < 58) (h : ds.head? ≠ some 0) :
    (ds.map digitChar).head? ≠ some '1' := by
  cases ds with
  | nil => simp
  | cons d ds =>
    intro hone
    have hd := digitChar_ne_one d (hlt d List.mem_cons_self) (Option.some.inj hone)
    exact h (congrArg some hd)

theorem asciiFault?_eq_none {cs : List Char} (h : ∀ c ∈ cs, c.toNat < 0x80) :
    asciiFault? cs = none := by
  have hdrop : cs.dropWhile (·.toNat < 0x80) = [] :=
    List.dropWhile_eq_nil_iff.mpr fun c hc => decide_eq_true (h c hc)
  rw [asciiFault?, hdrop]

theorem readDigits_map {ds : List ℕ} (hlt : ∀ d ∈ ds, d < 58) :
    readDigits (ds.map digitChar) = .ok ds := by
  induction ds with
  | nil => rfl
  | cons d ds ih =>
    rw [List.map_cons, readDigits, digitValue?_digitChar d (hlt d List.mem_cons_self)]
    simp only [ih fun e he => hlt e (List.mem_cons_of_mem d he), ok_bind, pure_eq_ok]

theorem eq_map_of_readDigits {cs : List Char} {ds : List ℕ} (h : readDigits cs = .ok ds) :
    (∀ d ∈ ds, d < 58) ∧ cs = ds.map digitChar := by
  induction cs generalizing ds with
  | nil =>
    obtain rfl := Except.ok.inj h
    exact ⟨by simp, rfl⟩
  | cons c cs ih =>
    rw [readDigits] at h
    split at h
    · exact nomatch h
    · rename_i d hd
      rw [bind_eq_ok] at h
      obtain ⟨es, hes, h⟩ := h
      obtain rfl := Except.ok.inj h
      obtain ⟨hlt, hc⟩ := eq_digitChar hd
      obtain ⟨hlts, hcs⟩ := ih hes
      refine ⟨?_, by rw [hc, hcs, List.map_cons]⟩
      rintro e (_ | ⟨_, he⟩)
      · exact hlt
      · exact hlts e he

/-! ## Byte strings -/

theorem encode_eq (n : ℕ) {bs : Bytes} (h : bs.head? ≠ some 0) :
    encode (List.replicate n 0 ++ bs) =
      List.replicate n '1' ++ (digits (Bytes.toNat bs)).map digitChar := by
  unfold encode
  simp only [takeWhile_replicate_append n h, Bytes.toNat_replicate_zero, List.map_replicate]

theorem decode_eq (n : ℕ) {ds : List ℕ} (hlt : ∀ d ∈ ds, d < 58) (h : ds.head? ≠ some 0) :
    decode (List.replicate n '1' ++ ds.map digitChar) =
      .ok (List.replicate n 0 ++ Bytes.minimal (ofDigits ds)) := by
  have hascii : ∀ c ∈ List.replicate n '1' ++ ds.map digitChar, c.toNat < 0x80 := by
    intro c hc
    rw [List.mem_append, List.mem_map] at hc
    rcases hc with hc | ⟨d, hd, rfl⟩
    · rw [List.eq_of_mem_replicate hc]
      decide
    · exact digitChar_toNat_lt d (hlt d hd)
  have hone := head?_map_digitChar hlt h
  rw [decode, asciiFault?_eq_none hascii]
  simp only [takeWhile_replicate_append n hone, dropWhile_replicate_append n hone,
    readDigits_map hlt, List.map_replicate, ok_bind, pure_eq_ok]

/-- **Base-58 text is canonical.** A text is read as a byte string exactly if the byte string is
written so. -/
theorem decode_eq_ok_iff {cs : List Char} {bs : Bytes} : decode cs = .ok bs ↔ encode bs = cs := by
  constructor
  · intro h
    obtain ⟨n, rest, rfl, hrest⟩ := exists_replicate_append '1' cs
    rw [decode] at h
    split at h
    · exact nomatch h
    · simp only [takeWhile_replicate_append n hrest, dropWhile_replicate_append n hrest,
        bind_eq_ok] at h
      obtain ⟨ds, hds, h⟩ := h
      obtain ⟨hlt, rfl⟩ := eq_map_of_readDigits hds
      have hzero : ds.head? ≠ some 0 := by
        intro h0
        rw [List.head?_map, h0] at hrest
        exact hrest rfl
      obtain rfl := Except.ok.inj h
      rw [List.map_replicate, encode_eq n (Bytes.head?_minimal _), Bytes.toNat_minimal,
        digits_ofDigits hlt hzero]
  · rintro rfl
    obtain ⟨n, rest, rfl, hrest⟩ := exists_replicate_append 0 bs
    rw [encode_eq n hrest, decode_eq n (fun d => lt_of_mem_digits) (head?_digits _),
      ofDigits_digits, Bytes.minimal_toNat hrest]

theorem isBlank_of_mem_encode {bs : Bytes} {c : Char} (hc : c ∈ encode bs) :
    Text.isBlank c = false := by
  obtain ⟨n, rest, rfl, hrest⟩ := exists_replicate_append 0 bs
  rw [encode_eq n hrest, List.mem_append, List.mem_map] at hc
  rcases hc with hc | ⟨d, hd, rfl⟩
  · rw [List.eq_of_mem_replicate hc]
    decide
  · exact isBlank_digitChar d (lt_of_mem_digits hd)

end Base58

/-! ## With a checksum -/

theorem append_of_verify {data payload : Bytes} (h : verify data = .ok payload) :
    append payload = data ∧ payload ≠ [] := by
  unfold verify at h
  simp only at h
  split_ifs at h with hlen hsum
  obtain rfl := Except.ok.inj h
  refine ⟨by rw [append, hsum, List.take_append_drop], fun hnil => ?_⟩
  have hzero := congrArg List.length hnil
  rw [List.length_take, List.length_nil] at hzero
  omega

/-- The text of a payload reads as the payload. -/
theorem decode_encode {payload : Bytes} (h : payload ≠ []) :
    decode (encode payload) = .ok payload := by
  rw [decode, encode, String.toList_ofList,
    Text.strip_eq_self (fun c hc => Base58.isBlank_of_mem_encode (List.mem_of_mem_head? hc))
      fun c hc => Base58.isBlank_of_mem_encode (List.mem_of_getLast? hc),
    Base58.decode_eq_ok_iff.mpr rfl]
  exact verify_append h

/-- A text that reads as a payload is the payload's text with blanks at its ends. -/
theorem encode_decode {text : String} {payload : Bytes} (h : decode text = .ok payload) :
    encode payload = String.ofList (Text.strip text.toList) := by
  rw [decode] at h
  split at h
  · exact nomatch h
  · rename_i data hdata
    rw [encode, (append_of_verify h).1, Base58.decode_eq_ok_iff.mp hdata]

/-- A text is read as a payload exactly if it is the base-58 form of the payload and its checksum. -/
theorem decode_eq_ok_iff {text : String} {payload : Bytes} : decode text = .ok payload ↔
    payload ≠ [] ∧ Base58.decode (Text.strip text.toList) = .ok (append payload) := by
  constructor
  · intro h
    rw [decode] at h
    split at h
    · exact nomatch h
    · rename_i data hdata
      obtain ⟨happend, hne⟩ := append_of_verify h
      exact ⟨hne, by rw [hdata, happend]⟩
  · rintro ⟨hne, h⟩
    rw [decode, h]
    exact verify_append hne

/-- A text is read exactly if, blanks at its ends left out, it writes a payload of some bytes. -/
theorem exists_decode_iff {text : String} : (∃ payload, decode text = .ok payload) ↔
    ∃ payload, payload ≠ [] ∧ String.ofList (Text.strip text.toList) = encode payload := by
  simp only [decode_eq_ok_iff, Base58.decode_eq_ok_iff, encode, String.ofList_inj]
  exact exists_congr fun payload => and_congr_right fun _ => eq_comm

theorem append_injective : Function.Injective append := by
  intro p q h
  have hlen := congrArg List.length h
  rw [append, append, List.length_append, List.length_append, length_checksum, length_checksum]
    at hlen
  exact List.append_inj_left h (by omega)

theorem encode_injective : Function.Injective encode := by
  intro p q h
  have hread := Base58.decode_eq_ok_iff.mpr (String.ofList_injective h)
  rw [Base58.decode_eq_ok_iff.mpr rfl] at hread
  exact append_injective (Except.ok.inj hread).symm

/-- Ones for the leading zero bytes, and behind them a numeral that does not start with a zero. -/
theorem exists_layout (payload : Bytes) : ∃ n rest ds,
    append payload = List.replicate n 0 ++ rest ∧ rest.head? ≠ some 0 ∧
      (encode payload).toList = List.replicate n '1' ++ ds.map Base58.digitChar ∧
      ds.head? ≠ some 0 ∧ (∀ d ∈ ds, d < 58) ∧ ofDigits ds = Bytes.toNat rest := by
  obtain ⟨n, rest, happend, hrest⟩ := exists_replicate_append 0 (append payload)
  refine ⟨n, rest, digits (Bytes.toNat rest), happend, hrest, ?_, head?_digits _,
    fun d => lt_of_mem_digits, ofDigits_digits _⟩
  rw [encode, happend, Base58.encode_eq n hrest, String.toList_ofList]

/-! ## Texts that are refused -/

theorem verify_of_length {payload check : Bytes} (hne : payload ≠ []) (hlen : check.length = size) :
    verify (payload ++ check) =
      if checksum payload = check then .ok payload else .error .checksumMismatch := by
  have hpos : 0 < payload.length := List.length_pos_iff.mpr hne
  have hsum : (payload ++ check).length = payload.length + size := by rw [List.length_append, hlen]
  rw [verify, if_neg (by omega), hsum, Nat.add_sub_cancel]
  simp only [List.take_left', List.drop_left']

/-- A mismatch is reported for the wrong four bytes behind a payload. -/
theorem verify_eq_checksumMismatch_iff {data : Bytes} : verify data = .error .checksumMismatch ↔
    ∃ payload check, data = payload ++ check ∧ payload ≠ [] ∧ check.length = size ∧
      check ≠ checksum payload := by
  constructor
  · intro h
    have hlen : size < data.length := by
      by_contra hle
      rw [verify, if_pos (by omega)] at h
      cases h
    have htake : (data.take (data.length - size)).length = data.length - size :=
      List.length_take_of_le (by omega)
    have hdrop : (data.drop (data.length - size)).length = size := by rw [List.length_drop]; omega
    have hne : data.take (data.length - size) ≠ [] := by
      rw [← List.length_pos_iff, htake]
      omega
    have hsplit := List.take_append_drop (data.length - size) data
    rw [← hsplit, verify_of_length hne hdrop] at h
    refine ⟨_, _, hsplit.symm, hne, hdrop, fun heq => ?_⟩
    rw [if_pos heq.symm] at h
    cases h
  · rintro ⟨payload, check, rfl, hne, hlen, hsum⟩
    rw [verify_of_length hne hlen, if_neg (Ne.symm hsum)]

theorem decode_eq_checksumMismatch_iff {text : String} :
    decode text = .error .checksumMismatch ↔ ∃ payload check,
      Base58.decode (Text.strip text.toList) = .ok (payload ++ check) ∧ payload ≠ [] ∧
        check.length = size ∧ check ≠ checksum payload := by
  rw [decode]
  cases hread : Base58.decode (Text.strip text.toList) with
  | error fault => simp
  | ok data =>
    simp only [verify_eq_checksumMismatch_iff, Except.ok.injEq]

theorem kind_of_decode_eq_error {text : String} {e : Error} (h : decode text = .error e) :
    e.kind = .parameter ∨ e = .checksumMismatch := by
  unfold decode verify at h
  split at h
  · obtain rfl := Except.error.inj h
    exact .inl rfl
  · dsimp only at h
    split_ifs at h <;> obtain rfl := Except.error.inj h
    · exact .inl rfl
    · exact .inr rfl

/-! ## The bijection -/

/-- **Base58Check is a bijection** between the payloads of at least one byte and the texts that are
read, blanks at their ends left out. Such a text has a one for each leading zero byte of the payload
with its checksum, and then the number of the other bytes in base 58 without a leading zero. -/
theorem base58Check_bijection :
    (∀ payload : Bytes, payload ≠ [] → decode (encode payload) = .ok payload) ∧
    (∀ (text : String) (payload : Bytes), decode text = .ok payload →
      payload ≠ [] ∧ encode payload = String.ofList (Text.strip text.toList)) ∧
    (∀ text : String, (∃ payload, decode text = .ok payload) ↔
      ∃ payload, payload ≠ [] ∧ String.ofList (Text.strip text.toList) = encode payload) ∧
    (∀ p q : Bytes, encode p = encode q → p = q) ∧
    ∀ payload : Bytes, ∃ n rest ds,
      payload ++ (Digest.doubleSha256 payload).take 4 = List.replicate n 0 ++ rest ∧
        rest.head? ≠ some 0 ∧
        (encode payload).toList = List.replicate n '1' ++ ds.map Base58.digitChar ∧
        ds.head? ≠ some 0 ∧ (∀ d ∈ ds, d < 58) ∧ ofDigits ds = Bytes.toNat rest :=
  ⟨fun _ => decode_encode, fun _ _ h => ⟨(decode_eq_ok_iff.mp h).1, encode_decode h⟩,
    fun _ => exists_decode_iff, fun _ _ h => encode_injective h, exists_layout⟩

/-- Two zero bytes and a seven, as a text between blanks. -/
theorem base58Check_bijection_zeros :
    ([0, 0, 7] : Bytes) ≠ [] ∧ decode (encode [0, 0, 7]) = .ok [0, 0, 7] ∧
    decode " 11tcR9Aa\n" = .ok [0, 0, 7] ∧
    encode [0, 0, 7] = String.ofList (Text.strip " 11tcR9Aa\n".toList) ∧
    encode [0, 0, 7] = "11tcR9Aa" := by
  obtain ⟨payloads, texts, -⟩ := base58Check_bijection
  have hne : ([0, 0, 7] : Bytes) ≠ [] := by decide
  have hread : decode " 11tcR9Aa\n" = .ok [0, 0, 7] := by
    set_option maxRecDepth 20000 in decide
  have hstrip : Text.strip " 11tcR9Aa\n".toList = "11tcR9Aa".toList := by decide
  have hwrite := (texts _ _ hread).2
  refine ⟨hne, payloads _ hne, hread, hwrite, ?_⟩
  rw [hwrite, hstrip, String.ofList_toList]

end Airgap.Checksum
