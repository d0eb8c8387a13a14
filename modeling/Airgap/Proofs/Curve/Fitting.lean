import Airgap.Proofs.Bytes
import Airgap.Proofs.Curve.Encoding
import Airgap.Proofs.Digest.Hmac
import Mathlib.Order.Bounds.Basic

/-!
# Fitting a number into the private scalars

* `IsCandidate`: the candidate of a number by its definition, from the formula of the code and the one
  byte string that writes the number without a zero in front; `isCandidate_iff`.
* `hits v`: the numbers from `v` on whose candidate is a private scalar.
* `fitFrom_eq`: one turn of the search; nothing that it writes is too big for its bytes.
* `fitFrom_of_isLeast`, `hits_nonempty_of_fitFrom`: from a number that is too large the search yields the
  candidate of the least hit, and it has no end if there is none.
* `fitSearch_eq_some_iff`: the search with a bound yields the same, if the bound reaches so far.
* `fit_least`: what a number is fitted to, and when it is refused.
-/

namespace Airgap.Curve

/-! ## Candidates -/

/-- `c` is the number of the first 32 bytes of the code that the label gives the shortest big-endian
form of `u`. -/
def IsCandidate (u c : ℕ) : Prop :=
  ∃ message : Bytes, Bytes.toNat message = u ∧ message.head? ≠ some 0 ∧
    Bytes.toNat ((Digest.Rfc2104.code .sha512 fitLabel message).take 32) = c

theorem isCandidate_iff {u c : ℕ} : IsCandidate u c ↔ fitCandidate u = c := by
  have hcode : fitCandidate u =
      Bytes.toNat ((Digest.Rfc2104.code .sha512 fitLabel (Bytes.minimal u)).take 32) := by
    rw [fitCandidate, Digest.value_hmac]
    rfl
  constructor
  · rintro ⟨message, rfl, hhead, rfl⟩
    rw [hcode, Bytes.minimal_toNat hhead]
  · rintro rfl
    exact ⟨Bytes.minimal u, Bytes.toNat_minimal u, Bytes.head?_minimal u, hcode.symm⟩

/-- The numbers from `v` on that have a candidate among the private scalars. -/
def hits (v : ℤ) : Set ℕ := {u | v ≤ u ∧ ∃ c, IsCandidate u c ∧ 0 < c ∧ c < order}

theorem mem_hits_iff {v : ℤ} {u : ℕ} :
    u ∈ hits v ↔ v ≤ u ∧ isPrivateScalar (fitCandidate u) = true := by
  simp [hits, isCandidate_iff, isPrivateScalar_natCast]

/-! ## One turn -/

theorem isPrivateScalar_of_order_le {n : ℕ} (h : order ≤ n) : ¬isPrivateScalar n = true :=
  fun hn => Nat.not_lt.mpr h (isPrivateScalar_natCast.mp hn).2

theorem order_lt_capacity : order < Bytes.capacity keySize := by decide

/-- A private scalar fits into a key. -/
theorem lt_capacity_of_isPrivateScalar {k : ℕ} (hk : isPrivateScalar k = true) :
    k < Bytes.capacity keySize :=
  (isPrivateScalar_natCast.mp hk).2.trans order_lt_capacity

theorem fixedBytes_scalar {k : ℕ} (hk : isPrivateScalar k = true) :
    fixedBytes keySize k = .ok (Bytes.ofNat keySize k) :=
  fixedBytes_natCast (lt_capacity_of_isPrivateScalar hk)

/-- The bytes that the bits of a number need hold it, however large it is. -/
theorem writtenCandidate_eq (n : ℕ) : writtenCandidate n = .ok (fitCandidate n) := by
  have hn : n < Bytes.capacity ((Bytes.bitLength n + 7) / 8) := by
    refine Bytes.length_minimal_le_iff.mp ?_
    rw [Bytes.minimal, Bytes.length_ofNat]
  rw [writtenCandidate, fixedBytes_natCast hn]
  rfl

theorem fitFrom_eq (n : ℕ) :
    fitFrom n =
      if isPrivateScalar n then some (.ok (Bytes.ofNat keySize n))
      else if isPrivateScalar (fitCandidate n) then
        some (.ok (Bytes.ofNat keySize (fitCandidate n)))
      else fitFrom (n + 1) := by
  rw [fitFrom, writtenCandidate_eq]
  by_cases hn : isPrivateScalar n = true
  · rw [if_pos hn, if_pos hn, fixedBytes_scalar hn]
  · rw [if_neg hn, if_neg hn]
    by_cases hc : isPrivateScalar (fitCandidate n) = true
    · rw [if_pos hc, ← fixedBytes_scalar hc]
      exact if_pos hc
    · rw [if_neg hc]
      exact if_neg hc

theorem fitFrom_of_isPrivateScalar {n : ℕ} (hn : isPrivateScalar n = true) :
    fitFrom n = some (.ok (Bytes.ofNat keySize n)) := by
  rw [fitFrom_eq, if_pos hn]

theorem fitFrom_of_candidate {n : ℕ} (hn : order ≤ n)
    (hc : isPrivateScalar (fitCandidate n) = true) :
    fitFrom n = some (.ok (Bytes.ofNat keySize (fitCandidate n))) := by
  rw [fitFrom_eq, if_neg (isPrivateScalar_of_order_le hn), if_pos hc]

/-! ## The whole search -/

/-- Numbers without a usable candidate are passed, and what follows a number that is too large is too
large itself. -/
theorem fitFrom_add {n : ℕ} (hn : order ≤ n) (k : ℕ)
    (hmiss : ∀ i < k, ¬isPrivateScalar (fitCandidate (n + i)) = true) :
    fitFrom n = fitFrom (n + k) := by
  induction k with
  | zero => rfl
  | succ k ih =>
    rw [ih fun i hi => hmiss i (Nat.lt_succ_of_lt hi), fitFrom_eq (n + k),
      if_neg (isPrivateScalar_of_order_le (Nat.le_add_right_of_le hn)),
      if_neg (hmiss k (Nat.lt_succ_self k)), Nat.add_assoc]

theorem fitFrom_of_isLeast {n u : ℕ} (hn : order ≤ n) (hu : IsLeast (hits n) u) :
    fitFrom n = some (.ok (Bytes.ofNat keySize (fitCandidate u))) := by
  obtain ⟨hnu, hc⟩ := mem_hits_iff.mp hu.1
  obtain ⟨k, rfl⟩ := Nat.exists_eq_add_of_le (Int.ofNat_le.mp hnu)
  have hmiss : ∀ i < k, ¬isPrivateScalar (fitCandidate (n + i)) = true := by
    intro i hi hgood
    have hle := hu.2 (mem_hits_iff.mpr ⟨by omega, hgood⟩)
    omega
  rw [fitFrom_add hn k hmiss, fitFrom_of_candidate (Nat.le_add_right_of_le hn) hc]

/-- A search from a number that is too large ends only at a hit. -/
theorem hits_nonempty_of_fitFrom {n : ℕ} {r : Except Error Bytes} (hn : order ≤ n)
    (h : fitFrom n = some r) : (hits n).Nonempty := by
  refine fitFrom.partial_correctness (fun n _ => order ≤ n → (hits n).Nonempty) ?_ n r h hn
  intro search ih n r hr hn
  rw [if_neg (isPrivateScalar_of_order_le hn), writtenCandidate_eq] at hr
  by_cases hc : isPrivateScalar (fitCandidate n) = true
  · exact ⟨n, mem_hits_iff.mpr ⟨Int.le_refl _, hc⟩⟩
  · replace hr := (if_neg hc).symm.trans hr
    obtain ⟨u, hu⟩ := ih (n + 1) r hr (Nat.le_succ_of_le hn)
    obtain ⟨hnu, hgood⟩ := mem_hits_iff.mp hu
    exact ⟨u, mem_hits_iff.mpr ⟨by omega, hgood⟩⟩

theorem exists_isLeast_hits {v : ℤ} (h : (hits v).Nonempty) : ∃ u, IsLeast (hits v) u := by
  classical
  exact ⟨Nat.find h, Nat.find_spec h, fun u hu => Nat.find_min' h hu⟩

/-! ## The search with a bound -/

theorem fitSearch_eq_some_iff {attempts n c : ℕ} :
    fitSearch attempts n = some c ↔
      ∃ u, IsLeast (hits n) u ∧ u < n + attempts ∧ fitCandidate u = c := by
  induction attempts generalizing n with
  | zero =>
    refine ⟨fun h => (nomatch h), fun ⟨u, hu, hlt, _⟩ => ?_⟩
    have hnu := (mem_hits_iff.mp hu.1).1
    omega
  | succ attempts ih =>
    rw [fitSearch]
    by_cases hc : isPrivateScalar (fitCandidate n) = true
    · have hleast : IsLeast (hits n) n :=
        ⟨mem_hits_iff.mpr ⟨Int.le_refl _, hc⟩, fun u hu => Int.ofNat_le.mp (mem_hits_iff.mp hu).1⟩
      rw [if_pos hc, Option.some.injEq]
      constructor
      · exact fun h => ⟨n, hleast, by omega, h⟩
      · rintro ⟨u, hu, -, rfl⟩
        rw [hleast.unique hu]
    · -- without `n` the hits are those from the next number on
      have hhits : hits n = hits (n + 1 : ℕ) := by
        ext u
        rw [mem_hits_iff, mem_hits_iff]
        refine and_congr_left fun hgood => ?_
        have hne : u ≠ n := fun h => hc (h ▸ hgood)
        omega
      rw [if_neg hc, ih, hhits, Nat.add_assoc, Nat.add_comm 1]

/-! ## Fitting -/

namespace KeyNumber

variable {k : KeyNumber} {key : Bytes}

theorem fit_of_nonpos (h : k.value ≤ 0) : k.fit = some (.error .zeroPrivateKey) := if_pos h

theorem fit_of_pos (h : 0 < k.value) : k.fit = fitFrom k.value.toNat := if_neg (not_le.mpr h)

theorem fit_of_lt_order (h : 0 < k.value) (hlt : k.value < order) :
    k.fit = some (.ok (Bytes.ofNat keySize k.value.toNat)) := by
  rw [fit_of_pos h]
  exact fitFrom_of_isPrivateScalar (isPrivateScalar_natCast.mpr (by omega))

theorem fit_of_isLeast {u : ℕ} (h : order ≤ k.value) (hu : IsLeast (hits k.value) u) :
    k.fit = some (.ok (Bytes.ofNat keySize (fitCandidate u))) := by
  have hpos : 0 < k.value := lt_of_lt_of_le (by decide) h
  rw [fit_of_pos hpos]
  refine fitFrom_of_isLeast (by omega) ?_
  rwa [Int.toNat_of_nonneg hpos.le]

theorem hits_nonempty_of_fit {r : Except Error Bytes} (h : order ≤ k.value) (hr : k.fit = some r) :
    (hits k.value).Nonempty := by
  have hpos : 0 < k.value := lt_of_lt_of_le (by decide) h
  rw [fit_of_pos hpos] at hr
  have hhits := hits_nonempty_of_fitFrom (by omega) hr
  rwa [Int.toNat_of_nonneg hpos.le] at hhits

/-- What a number is fitted to is the 32-byte form of a private scalar. -/
theorem exists_scalar_of_fit (h : k.fit = some (.ok key)) :
    ∃ c : ℕ, isPrivateScalar c = true ∧ key = Bytes.ofNat keySize c := by
  rcases lt_or_ge 0 k.value with hpos | hneg
  · rcases lt_or_ge k.value order with hlt | hge
    · rw [fit_of_lt_order hpos hlt, Option.some.injEq, Except.ok.injEq] at h
      exact ⟨_, isPrivateScalar_natCast.mpr (by omega), h.symm⟩
    · obtain ⟨u, hu⟩ := exists_isLeast_hits (hits_nonempty_of_fit hge h)
      rw [fit_of_isLeast hge hu, Option.some.injEq, Except.ok.injEq] at h
      exact ⟨_, (mem_hits_iff.mp hu.1).2, h.symm⟩
  · rw [fit_of_nonpos hneg] at h
    cases h

theorem toNat_scalar {c : ℕ} (hc : isPrivateScalar c = true) :
    Bytes.toNat (Bytes.ofNat keySize c) = c :=
  Bytes.toNat_ofNat_of_lt (lt_capacity_of_isPrivateScalar hc)

/-- Fitting depends on the number alone. -/
theorem fit_congr {l : KeyNumber} (h : k.value = l.value) : k.fit = l.fit := by
  rw [fit, fit, h]

/-- A private scalar is fitted to itself. -/
theorem fit_scalar {c : ℕ} (hc : isPrivateScalar c = true) (h : k.value = c) :
    k.fit = some (.ok (Bytes.ofNat keySize c)) := by
  obtain ⟨hpos, hlt⟩ := isPrivateScalar_natCast.mp hc
  rw [fit_of_lt_order (by omega) (by omega), h, Int.toNat_natCast]

/-- A bound on the numbers that are hashed does not change what a number is fitted to. -/
theorem exists_fitPrivateKey_iff :
    (∃ attempts, fitPrivateKey attempts k.value = .ok (some key)) ↔ k.fit = some (.ok key) := by
  rcases lt_or_ge 0 k.value with hpos | hneg
  · rcases lt_or_ge k.value order with hlt | hge
    · have hscalar : isPrivateScalar k.value = true := by
        rw [isPrivateScalar, decide_eq_true_eq]
        omega
      simp [fitPrivateKey, not_le.mpr hpos, hscalar, fit_of_lt_order hpos hlt]
    · have hscalar : ¬isPrivateScalar k.value = true := by
        rw [isPrivateScalar, decide_eq_true_eq]
        omega
      have hcast : ((k.value.toNat : ℕ) : ℤ) = k.value := Int.toNat_of_nonneg hpos.le
      simp only [fitPrivateKey, if_neg (not_le.mpr hpos), if_neg hscalar, Except.ok.injEq,
        Option.map_eq_some_iff, fitSearch_eq_some_iff, hcast]
      constructor
      · rintro ⟨attempts, c, ⟨u, hu, -, rfl⟩, rfl⟩
        exact fit_of_isLeast hge hu
      · intro h
        obtain ⟨u, hu⟩ := exists_isLeast_hits (hits_nonempty_of_fit hge h)
        rw [fit_of_isLeast hge hu, Option.some.injEq, Except.ok.injEq] at h
        exact ⟨u + 1, _, ⟨u, hu, by omega, rfl⟩, h⟩
  · simp [fitPrivateKey, hneg, fit_of_nonpos hneg]

/-- **What a number is fitted to.** A private scalar stays as it is. A number that is too large is fitted
to the candidate of the least number from it on that has a candidate among the private scalars, and the
search ends only if there is one. The result is a key, and is fitted to itself. Numbers that are not
positive are refused, and zeros in front of the bytes do not matter. -/
theorem fit_least (k : KeyNumber) :
    (k.value ≤ 0 → ∃ e, k.fit = some (.error e) ∧ e.kind = .parameter) ∧
    (0 < k.value → k.value < order →
      ∃ key, k.fit = some (.ok key) ∧ key.length = 32 ∧ Bytes.toNat key = k.value) ∧
    (order ≤ k.value →
      ((hits k.value).Nonempty → ∃ u c key, IsLeast (hits k.value) u ∧ IsCandidate u c ∧
        k.fit = some (.ok key) ∧ key.length = 32 ∧ Bytes.toNat key = c) ∧
      ((∃ r, k.fit = some r) → (hits k.value).Nonempty)) ∧
    (∀ key, k.fit = some (.ok key) →
      key.length = 32 ∧ isPrivateScalar (Bytes.toNat key) = true ∧
        (bytes key).fit = some (.ok key) ∧ (integer (Bytes.toNat key)).fit = some (.ok key)) ∧
    (∀ key, (∃ attempts, fitPrivateKey attempts k.value = .ok (some key)) ↔
      k.fit = some (.ok key)) ∧
    (∀ (zeros : ℕ) (bs : Bytes),
      (bytes (List.replicate zeros 0 ++ bs)).fit = (integer (Bytes.toNat bs)).fit) ∧
    ∀ zeros : ℕ, ∃ e, (bytes (List.replicate zeros 0)).fit = some (.error e) ∧
      e.kind = .parameter := by
  have hzeros : ∀ (zeros : ℕ) (bs : Bytes),
      (bytes (List.replicate zeros 0 ++ bs)).value = Bytes.toNat bs := by
    intro zeros bs
    rw [value, Bytes.toNat_replicate_zero]
  refine ⟨fun h => ⟨_, fit_of_nonpos h, rfl⟩, fun hpos hlt => ?_, fun hge =>
    ⟨fun hne => ?_, fun ⟨r, hr⟩ => hits_nonempty_of_fit hge hr⟩, fun key h => ?_,
    fun key => exists_fitPrivateKey_iff, fun zeros bs => fit_congr (hzeros zeros bs), fun zeros => ?_⟩
  · have hscalar : isPrivateScalar (k.value.toNat : ℕ) = true :=
      isPrivateScalar_natCast.mpr (by omega)
    refine ⟨_, fit_of_lt_order hpos hlt, Bytes.length_ofNat _ _, ?_⟩
    rw [toNat_scalar hscalar, Int.toNat_of_nonneg hpos.le]
  · obtain ⟨u, hu⟩ := exists_isLeast_hits hne
    exact ⟨u, _, _, hu, isCandidate_iff.mpr rfl, fit_of_isLeast hge hu, Bytes.length_ofNat _ _,
      toNat_scalar (mem_hits_iff.mp hu.1).2⟩
  · obtain ⟨c, hc, rfl⟩ := exists_scalar_of_fit h
    have hnum := toNat_scalar hc
    refine ⟨Bytes.length_ofNat _ _, by rwa [hnum], fit_scalar hc ?_, fit_scalar hc ?_⟩
    · rw [value, hnum]
    · rw [value, hnum]
  · have hvalue := hzeros zeros []
    rw [List.append_nil] at hvalue
    exact ⟨_, fit_of_nonpos (hvalue.trans rfl).le, rfl⟩

theorem fitCandidate_ones :
    fitCandidate (2 ^ 256 - 1) =
      0x83F29C9FEC8E766930F541CFDF73DBF61AF285C8E4EC4B9264F0930B8DF6B058 := by
  decide +kernel

/-- The largest number of 32 bytes behind a zero, and a number that stays as it is. -/
theorem fit_least_ones :
    let k := bytes (0 :: List.replicate 32 0xFF)
    let c := 0x83F29C9FEC8E766930F541CFDF73DBF61AF285C8E4EC4B9264F0930B8DF6B058
    (order ≤ k.value ∧ IsLeast (hits k.value) (2 ^ 256 - 1) ∧ IsCandidate (2 ^ 256 - 1) c ∧
      ∃ key, k.fit = some (.ok key) ∧ Bytes.toNat key = c ∧ (bytes key).fit = some (.ok key)) ∧
    (∃ key, (integer 5).fit = some (.ok key) ∧ Bytes.toNat key = 5) ∧
    ∃ e, (integer (-1)).fit = some (.error e) ∧ e.kind = .parameter := by
  intro k c
  have hvalue : k.value = (2 ^ 256 - 1 : ℕ) := by decide
  have hge : order ≤ k.value := by decide
  have hscalar : isPrivateScalar (fitCandidate (2 ^ 256 - 1)) = true := by
    rw [fitCandidate_ones]
    decide
  have hleast : IsLeast (hits k.value) (2 ^ 256 - 1) := by
    rw [hvalue]
    exact ⟨mem_hits_iff.mpr ⟨Int.le_refl _, hscalar⟩,
      fun u hu => Int.ofNat_le.mp (mem_hits_iff.mp hu).1⟩
  have hc : IsCandidate (2 ^ 256 - 1) c := isCandidate_iff.mpr fitCandidate_ones
  obtain ⟨u, c', key, hu, hc', hkey, -, hnum⟩ := ((fit_least k).2.2.1 hge).1 ⟨_, hleast.1⟩
  obtain rfl := hu.unique hleast
  obtain rfl : c' = c := (isCandidate_iff.mp hc').symm.trans (isCandidate_iff.mp hc)
  have hself := ((fit_least k).2.2.2.1 key hkey).2.2.1
  obtain ⟨five, hfive, -, hfivenum⟩ := (fit_least (integer 5)).2.1 (by decide) (by decide)
  exact ⟨⟨hge, hleast, hc, key, hkey, hnum, hself⟩, ⟨five, hfive, Int.ofNat.inj hfivenum⟩,
    (fit_least (integer (-1))).1 (by decide)⟩

end KeyNumber

end Airgap.Curve
