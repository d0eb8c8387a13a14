import Airgap.Proofs.KeyTree.Counterpart

/-!
# What a step of derivation comes to

* `ChildNumber.ofInteger_eq`: the step that an integer of 32 bits stands for.
* `ChildKey`: the key data of a child, or none where the sum is zero or infinity; there is always
  one of the two (`exists_childKey`), and what there is passes as key data (`ChildKey.checkKey`).
* `Derives`: what a step comes to, by its conditions in the order in which they are tried;
  `deriveChild_eq_iff`.
* `derivation_outcomes`: integers, steps and paths.
-/

namespace Airgap.KeyTree

open Curve (base coordinates encoding generator isOnCurve)
open Digest (hmac)

namespace ChildNumber

variable {i : ℤ} {h : Bool}

theorem ofInteger_neg (hi : i < 0) : ofInteger i h = .error (.childIndexRange i) := by
  rw [ofInteger, if_neg (by omega), ofIndex, dif_neg (by omega)]

theorem ofInteger_ge (hi : (numberLimit : ℤ) ≤ i) : ofInteger i h = .error .childNumberRange := by
  simp only [numberLimit] at hi
  rw [ofInteger, if_pos (by simp only [hardenedOffset]; omega), ofRaw,
    if_neg (by simp only [numberLimit]; omega)]

/-- The low 31 bits are the index; the step is hardened by the bit above them or by the flag. -/
theorem ofInteger_eq (h0 : 0 ≤ i) (hlt : i < numberLimit) : ∃ c : ChildNumber,
    ofInteger i h = .ok c ∧ (c.index : ℤ) = i % hardenedOffset ∧
      c.hardened = (h || decide (hardenedOffset ≤ i)) := by
  rw [ofInteger]
  by_cases hi : (hardenedOffset : ℤ) ≤ i
  · rw [if_pos hi, ofRaw, if_pos ⟨h0, hlt⟩]
    refine ⟨_, rfl, ?_, ?_⟩
    · simp only [hardenedOffset]
      omega
    · have hnat : hardenedOffset ≤ i.toNat := by omega
      simp only [hi, hnat, decide_true, Bool.or_true]
  · rw [if_neg hi, ofIndex, dif_pos ⟨h0, by omega⟩]
    refine ⟨_, rfl, ?_, ?_⟩
    · simp only [hardenedOffset] at hi ⊢
      omega
    · simp only [hi, decide_false, Bool.or_false]

end ChildNumber

namespace ExtendedKey

variable {k : ExtendedKey} {c : ChildNumber}

/-! ## The key data of a child -/

/-- The point of a public key and the multiple of the base point by `left` add up to `r`. -/
def PointSum (k : ExtendedKey) (left : ℕ) (r : Curve.Point) : Prop :=
  ∃ p q, Curve.multiply left (some generator) = .ok p ∧ Curve.decompress k.key = .ok q ∧
    Curve.add p (some q) = r

/-- The key data of a child whose code starts with the number `left`: the sum with the parent's
scalar modulo the order, or the sum with the parent's point. There are none if the sum is zero or
infinity. -/
inductive ChildKey (k : ExtendedKey) (left : ℕ) : Option Bytes → Prop where
  | zero : k.isPrivate = true → (left + k.scalar) % Curve.order = 0 → ChildKey k left none
  | scalar {s : ℕ} : k.isPrivate = true → s = (left + k.scalar) % Curve.order → 0 < s →
      s < Curve.order → ChildKey k left (some (Bytes.ofNat 32 s))
  | infinity : k.isPrivate = false → PointSum k left none → ChildKey k left none
  | point {a : Curve.Affine} {d : Bytes} : k.isPrivate = false → PointSum k left (some a) →
      isOnCurve (some a) = true → Curve.compress (some a) = .ok d → d.length = 33 →
      Curve.decompress d = .ok a → ChildKey k left (some d)

theorem exists_pointSum (hk : k.isPrivate = false) {left : ℕ} (hleft : left < Curve.order) :
    ∃ A : Curve.Group, PointSum k left (coordinates A) := by
  have hok := k.key_ok
  rw [isPrivate_eq_false_iff.mp hk] at hok
  obtain ⟨-, q, hq⟩ := checkKey_publicOnly.mp hok
  obtain ⟨B, hB⟩ := Curve.isOnCurve_iff.mp (Curve.decompress_eq_ok_iff.mp hq).2
  have horder := Curve.order_lt
  have hmultiply : Curve.multiply left (some generator) = .ok (coordinates (left • base)) := by
    rw [Curve.multiply, if_pos (by omega), Int.toNat_natCast, Curve.multiple_generator (by omega)]
  refine ⟨left • base + B, _, q, hmultiply, hq, ?_⟩
  rw [← hB, Curve.add_coordinates]

theorem exists_childKey (k : ExtendedKey) {left : ℕ} (hleft : left < Curve.order) :
    ∃ data, ChildKey k left data := by
  cases hk : k.isPrivate
  · obtain ⟨A, hA⟩ := exists_pointSum hk hleft
    by_cases hzero : A = 0
    · rw [hzero] at hA
      exact ⟨none, .infinity hk hA⟩
    · obtain ⟨a, ha⟩ := Curve.exists_coordinates hzero
      have hcompress := Curve.compress_coordinates hzero
      rw [ha] at hA hcompress
      exact ⟨_, .point hk hA (Curve.isOnCurve_iff.mpr ⟨A, ha⟩) hcompress
        (Curve.length_encoding hzero) (Curve.decompress_encoding ha)⟩
  · by_cases hzero : (left + k.scalar) % Curve.order = 0
    · exact ⟨none, .zero hk hzero⟩
    · exact ⟨_, .scalar hk rfl (by omega) (Nat.mod_lt _ (by decide))⟩

theorem childKey_of_order_le {left : ℕ} (h : Curve.order ≤ left) :
    k.childKey c left = .error (.invalidChild c.index c.hardened) := by
  rw [childKey, if_pos h]

/-- Of a public key the child's key data are computed from the sum of the points. -/
theorem PointSum.childKey_eq {left : ℕ} {r : Curve.Point} (h : PointSum k left r)
    (hk : k.isPrivate = false) (hleft : left < Curve.order) : k.childKey c left =
      r.elim (.error (.invalidChild c.index c.hardened)) fun a => Curve.compress (some a) := by
  obtain ⟨p, q, hp, hq, hsum⟩ := h
  have horder := Curve.order_lt
  rw [Curve.multiply, if_pos (by omega), Int.toNat_natCast] at hp
  obtain rfl := Except.ok.inj hp
  rw [childKey, if_neg (by omega), hk, if_neg Bool.false_ne_true, hq, ok_bind, hsum]
  cases r <;> rfl

theorem ChildKey.childKey_eq_error {left : ℕ} (hleft : left < Curve.order)
    (h : ChildKey k left none) : k.childKey c left = .error (.invalidChild c.index c.hardened) := by
  cases h with
  | zero hk hzero =>
    rw [childKey, if_neg (by omega), if_pos hk]
    exact if_pos hzero
  | infinity hk hsum => exact hsum.childKey_eq hk hleft

theorem ChildKey.childKey_eq_ok {left : ℕ} {data : Bytes} (hleft : left < Curve.order)
    (h : ChildKey k left (some data)) : k.childKey c left = .ok data := by
  cases h with
  | scalar hk hs h0 _ =>
    subst hs
    rw [childKey, if_neg (by omega), if_pos hk]
    exact if_neg (by rw [ExtendedKey.scalar] at h0; omega)
  | point hk hsum _ hcompress => exact (hsum.childKey_eq hk hleft).trans hcompress

/-- The key data of a child are never refused. -/
theorem ChildKey.checkKey {left : ℕ} {data : Bytes} (h : ChildKey k left (some data)) :
    checkKey k.kind data = .ok () := by
  cases h with
  | @scalar s hk _ h0 hlt =>
    have hcap : s < Bytes.capacity 32 := hlt.trans (by decide)
    rw [isPrivate_iff.mp hk, checkKey_secret, Bytes.toNat_ofNat_of_lt hcap]
    exact ⟨Bytes.length_ofNat _ _, Curve.isPrivateScalar_natCast.mpr ⟨h0, hlt⟩⟩
  | point hk _ hcurve hcompress hlen hread =>
    obtain ⟨A, hA⟩ := Curve.isOnCurve_iff.mp hcurve
    have hne : A ≠ 0 := by
      rintro rfl
      exact nomatch hA
    rw [← hA, Curve.compress_coordinates hne] at hcompress
    obtain rfl := Except.ok.inj hcompress
    rw [isPrivate_eq_false_iff.mp hk]
    exact checkKey_encoding hne

/-! ## One step -/

/-- The message of a step: the private key data behind a zero byte if the step is hardened and the
public key `pub` otherwise, with the child number. -/
def stepMessage (k : ExtendedKey) (pub : Bytes) (c : ChildNumber) : Bytes :=
  (if c.hardened then 0 :: k.key else pub) ++ Bytes.ofNat 4 c.raw

/-- The halves of the code of a step, the left one as a number. -/
def Halves (k : ExtendedKey) (c : ChildNumber) (left : ℕ) (right : Bytes) : Prop :=
  ∃ pub, k.publicKey = .ok pub ∧
    left = Bytes.toNat ((hmac .sha512 k.chainCode (k.stepMessage pub c)).value.take 32) ∧
    right = (hmac .sha512 k.chainCode (k.stepMessage pub c)).value.drop 32

theorem exists_halves (k : ExtendedKey) (c : ChildNumber) :
    ∃ left right, Halves k c left right := by
  obtain ⟨pub, hpub⟩ := exists_publicKey k
  exact ⟨_, _, pub, hpub, rfl, rfl⟩

theorem Halves.stepCode {left : ℕ} {right : Bytes} (h : Halves k c left right) :
    ∃ code, k.stepCode c = .ok code ∧ left = Bytes.toNat (code.take 32) ∧ right = code.drop 32 ∧
      right.length = 32 := by
  obtain ⟨pub, hpub, rfl, rfl⟩ := h
  refine ⟨_, ?_, rfl, rfl, ?_⟩
  · rw [ExtendedKey.stepCode, hpub, stepMessage]
    cases c.hardened <;> rfl
  · rw [List.length_drop, Digest.length_value]
    rfl

/-- What a step comes to. The conditions are tried in this order: a hardened step needs a private
key, the parent must not stand at the greatest depth, and the left half of the code must be below the
order and give key data; then there is a child, with the other half as its chain code. -/
inductive Derives (k : ExtendedKey) (c : ChildNumber) : Except Error ExtendedKey → Prop where
  | hardened : c.hardened = true → k.isPrivate = false →
      Derives k c (.error (.hardenedFromPublic c.index))
  | deepest : (c.hardened = true → k.isPrivate = true) → k.depth = 255 →
      Derives k c (.error .maximumDepth)
  | invalid {left : ℕ} {right : Bytes} : (c.hardened = true → k.isPrivate = true) → k.depth < 255 →
      Halves k c left right → Curve.order ≤ left ∨ ChildKey k left none →
      Derives k c (.error (.invalidChild c.index c.hardened))
  | child {left : ℕ} {right : Bytes} {child : ExtendedKey} :
      (c.hardened = true → k.isPrivate = true) → k.depth < 255 → Halves k c left right →
      left < Curve.order → ChildKey k left (some child.key) → child.chainCode = right →
      child.kind = k.kind → child.depth = k.depth + 1 → child.network = k.network →
      k.fingerprint = .ok child.parentFingerprint → child.childNumber = c.raw →
      Derives k c (.ok child)

theorem not_hardened_or (h : c.hardened = true → k.isPrivate = true) :
    c.hardened = false ∨ k.isPrivate = true := by
  cases hc : c.hardened
  · exact .inl rfl
  · exact .inr (h hc)

theorem Derives.deriveChild_eq {r : Except Error ExtendedKey} (h : Derives k c r) :
    k.deriveChild c = r := by
  cases h with
  | hardened hc hk => exact deriveChild_hardened hc hk
  | deepest hc hdepth => exact deriveChild_maximumDepth (not_hardened_or hc) hdepth.ge
  | @invalid left right hc hdepth hhalves hinvalid =>
    obtain ⟨fp, hfp, -⟩ := exists_fingerprint k
    obtain ⟨code, hcode, rfl, rfl, -⟩ := hhalves.stepCode
    rw [ExtendedKey.deriveChild_eq (not_hardened_or hc) hdepth hcode hfp]
    have hkey : k.childKey c (Bytes.toNat (code.take 32)) =
        .error (.invalidChild c.index c.hardened) := by
      by_cases hleft : Curve.order ≤ Bytes.toNat (code.take 32)
      · exact childKey_of_order_le hleft
      · exact (hinvalid.resolve_left hleft).childKey_eq_error (Nat.lt_of_not_le hleft)
    rw [hkey, error_bind]
  | @child left right child hc hdepth hhalves hleft hkey hchain hkind hchild hnetwork hfp hnumber =>
    obtain ⟨code, hcode, rfl, rfl, -⟩ := hhalves.stepCode
    rw [ExtendedKey.deriveChild_eq (not_hardened_or hc) hdepth hcode hfp,
      hkey.childKey_eq_ok hleft, ok_bind, ofFields_eq_ok_iff]
    exact ⟨hkind, rfl, hchain, by omega, rfl, hnumber, hnetwork⟩

/-- One of the conditions applies. -/
theorem exists_derives (k : ExtendedKey) (c : ChildNumber) : ∃ r, Derives k c r := by
  by_cases hc : c.hardened = true → k.isPrivate = true
  · rcases Nat.lt_or_eq_of_le k.depth_le with hdepth | hdepth
    · obtain ⟨left, right, hhalves⟩ := exists_halves k c
      by_cases hleft : left < Curve.order
      · obtain ⟨_ | data, hkey⟩ := exists_childKey k hleft
        · exact ⟨_, .invalid hc hdepth hhalves (.inr hkey)⟩
        · obtain ⟨fp, hfp, hfplen⟩ := exists_fingerprint k
          obtain ⟨-, -, -, -, hlen⟩ := hhalves.stepCode
          exact ⟨.ok ⟨k.kind, data, right, k.depth + 1, fp, c.raw, k.network, hlen, hdepth, hfplen,
            hkey.checkKey⟩, .child hc hdepth hhalves hleft hkey rfl rfl rfl rfl hfp rfl⟩
      · exact ⟨_, .invalid hc hdepth hhalves (.inl (Nat.le_of_not_lt hleft))⟩
    · exact ⟨_, .deepest hc hdepth⟩
  · rw [Classical.not_imp, Bool.not_eq_true] at hc
    exact ⟨_, .hardened hc.1 hc.2⟩

/-- **A step comes to what its conditions say**, and to nothing else. -/
theorem deriveChild_eq_iff {r : Except Error ExtendedKey} :
    k.deriveChild c = r ↔ Derives k c r := by
  constructor
  · rintro rfl
    obtain ⟨r, h⟩ := exists_derives k c
    rw [h.deriveChild_eq]
    exact h
  · exact Derives.deriveChild_eq

/-! ## Integers and paths -/

theorem deriveIndex_neg {i : ℤ} {h : Bool} (hi : i < 0) :
    k.deriveIndex i h = .error (.childIndexRange i) := by
  rw [deriveIndex, ChildNumber.ofInteger_neg hi, error_bind]

theorem deriveIndex_ge {i : ℤ} {h : Bool} (hi : (numberLimit : ℤ) ≤ i) :
    k.deriveIndex i h = .error .childNumberRange := by
  rw [deriveIndex, ChildNumber.ofInteger_ge hi, error_bind]

theorem deriveIndex_eq {i : ℤ} {h : Bool} (h0 : 0 ≤ i) (hlt : i < numberLimit) :
    ∃ c : ChildNumber, (c.index : ℤ) = i % hardenedOffset ∧
      c.hardened = (h || decide (hardenedOffset ≤ i)) ∧ k.deriveIndex i h = k.deriveChild c := by
  obtain ⟨c, hc, hindex, hhardened⟩ := ChildNumber.ofInteger_eq h0 hlt
  exact ⟨c, hindex, hhardened, by rw [deriveIndex, hc, ok_bind]⟩

/-- **A path** leads as many levels down as it has steps, or stops at its first step that fails. -/
theorem derivePath_ok_or_stopsAt (k : ExtendedKey) (cs : List ChildNumber) :
    (∃ d, k.derivePath ⟨cs⟩ = .ok d) ∨ ∃ before step e, StopsAt k ⟨cs⟩ before step e := by
  induction cs generalizing k with
  | nil => exact .inl ⟨k, rfl⟩
  | cons c cs ih =>
    cases hc : k.deriveChild c with
    | error e => exact .inr ⟨[], c, e, .head hc⟩
    | ok m =>
      rcases ih m with ⟨d, hd⟩ | ⟨before, step, e, h⟩
      · exact .inl ⟨d, by rw [derivePath_cons, hc, ok_bind, hd]⟩
      · exact .inr ⟨c :: before, step, e, h.cons hc⟩

/-- **What derivation comes to.** An integer without 32 bits is refused, and any other stands for
the step with its low 31 bits, hardened by the bit above them or by the flag. A step comes to what
its conditions say, in their order: one of three failures or a child whose key data are valid. A path
leads as many levels down as it has steps, or stops with one of these failures at its first step that
fails. -/
theorem derivation_outcomes :
    (∀ (k : ExtendedKey) (i : ℤ) (h : Bool),
      (k.deriveIndex i h = .error (.childIndexRange i) ↔ i < 0) ∧
      (k.deriveIndex i h = .error .childNumberRange ↔ 2 ^ 32 ≤ i) ∧
      (0 ≤ i → i < 2 ^ 32 → ∃ c : ChildNumber, (c.index : ℤ) = i % 2 ^ 31 ∧
        c.hardened = (h || decide (2 ^ 31 ≤ i)) ∧ k.deriveIndex i h = k.deriveChild c)) ∧
    (∀ (k : ExtendedKey) (c : ChildNumber) (r : Except Error ExtendedKey),
      k.deriveChild c = r ↔ Derives k c r) ∧
    (∀ (k : ExtendedKey) (p : Path),
      (∃ d, k.derivePath p = .ok d ∧ d.depth = k.depth + p.steps.length ∧ d.depth ≤ 255) ∨
      ∃ before step e, StopsAt k p before step e ∧ ∃ m, k.derivePath ⟨before⟩ = .ok m ∧
        m.depth = k.depth + before.length ∧ Derives m step (.error e)) ∧
    ∀ (i : ℤ) (h : Bool),
      (Error.childIndexRange i).kind = .parameter ∧ Error.childNumberRange.kind = .parameter ∧
      (Error.hardenedFromPublic i).kind = .hardenedFromPublic ∧
      Error.maximumDepth.kind = .parameter ∧ (Error.invalidChild i h).kind = .childIndex := by
  refine ⟨?integers, fun k c r => deriveChild_eq_iff, ?paths, fun i h => ⟨rfl, rfl, rfl, rfl, rfl⟩⟩
  case integers =>
    intro k i h
    have hstep (h0 : 0 ≤ i) (hlt : i < 2 ^ 32) : ∃ c : ChildNumber, (c.index : ℤ) = i % 2 ^ 31 ∧
        c.hardened = (h || decide (2 ^ 31 ≤ i)) ∧ k.deriveIndex i h = k.deriveChild c :=
      deriveIndex_eq h0 hlt
    refine ⟨⟨fun he => ?_, deriveIndex_neg⟩, ⟨fun he => ?_, deriveIndex_ge⟩, hstep⟩
    · by_contra h0
      by_cases hlt : i < 2 ^ 32
      · obtain ⟨c, -, -, hc⟩ := hstep (by omega) hlt
        cases deriveChild_eq_iff.mp (hc.symm.trans he)
      · rw [deriveIndex_ge (not_lt.mp hlt)] at he
        exact nomatch he
    · by_contra hlt
      by_cases h0 : 0 ≤ i
      · obtain ⟨c, -, -, hc⟩ := hstep h0 (by omega)
        cases deriveChild_eq_iff.mp (hc.symm.trans he)
      · rw [deriveIndex_neg (not_le.mp h0)] at he
        exact nomatch he
  case paths =>
    intro k p
    rcases derivePath_ok_or_stopsAt k p.steps with ⟨d, hd⟩ | ⟨before, step, e, h⟩
    · exact .inl ⟨d, hd, depth_derivePath hd, d.depth_le⟩
    · obtain ⟨m, hm, hstep⟩ := h.2.1
      exact .inr ⟨before, step, e, h, m, hm, depth_derivePath hm, deriveChild_eq_iff.mp hstep⟩

/-- A number with the top bit stands for a hardened step, which the public counterpart of the unit
key refuses; the unit key has no descendant two levels down. -/
theorem derivation_outcomes_unitKey :
    ((0 : ℤ) ≤ 2 ^ 31 + 7 ∧ (2 : ℤ) ^ 31 + 7 < 2 ^ 32 ∧ ∃ c : ChildNumber, c.index = 7 ∧
      c.hardened = true ∧ unitKey.deriveIndex (2 ^ 31 + 7) false = unitKey.deriveChild c) ∧
    (∃ K, unitKey.neuter = .ok K ∧
      K.deriveIndex (2 ^ 31 + 7) false = .error (.hardenedFromPublic 7)) ∧
    ∃ before step e, StopsAt unitKey deepPath before step e := by
  obtain ⟨integers, steps, paths, -⟩ := derivation_outcomes
  have hlt : (2 : ℤ) ^ 31 + 7 < 2 ^ 32 := by decide
  refine ⟨⟨by decide, hlt, ?_⟩, ?_, ?_⟩
  · obtain ⟨c, hindex, hhardened, hc⟩ := (integers unitKey (2 ^ 31 + 7) false).2.2 (by decide) hlt
    exact ⟨c, by omega, hhardened, hc⟩
  · obtain ⟨K, hK⟩ := exists_counterpart (k := unitKey) rfl
    obtain ⟨c, hindex, hhardened, hc⟩ := (integers K (2 ^ 31 + 7) false).2.2 (by decide) hlt
    have hseven : c.index = 7 := by omega
    refine ⟨K, (neuter_eq_ok_iff rfl).mpr hK, hc.trans ((steps K c _).mpr ?_)⟩
    rw [← Nat.cast_ofNat, ← hseven]
    exact .hardened hhardened hK.not_isPrivate
  · rcases paths unitKey deepPath with ⟨d, -, hdepth, hle⟩ | ⟨before, step, e, h, -⟩
    · rw [show unitKey.depth = 254 from rfl, show deepPath.steps.length = 3 from rfl] at hdepth
      omega
    · exact ⟨before, step, e, h⟩

end ExtendedKey

end Airgap.KeyTree
