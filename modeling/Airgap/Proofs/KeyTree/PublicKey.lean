import Airgap.Proofs.KeyTree.Counterpart
import Airgap.Proofs.KeyTree.Serialization

/-!
# Public keys tell private scalars apart

* `Curve.exists_publicKey_eq`, `Curve.publicKey_inj`: every private scalar has a public key, a point
  that is read back, and no two have the same one.
* `ExtendedKey.key_eq_of_equals`: public keys that count as equal have the same key data.
* `ExtendedKey.publicKey_tells_scalar`: the same for scalars and for the counterparts of extended keys.
-/

namespace Airgap

namespace Curve

/-! ## Scalars -/

/-- The public key of a private scalar is its multiple of the base point, which is not infinity, in 33
bytes that are read as that point. -/
theorem exists_publicKey_eq {k : ℤ} (h0 : 0 < k) (hk : k < order) :
    ∃ a d, multiply k (some generator) = .ok (some a) ∧ compress (some a) = .ok d ∧
      publicKey k = .ok d ∧ d.length = 33 ∧ decompress d = .ok a := by
  lift k to ℕ using h0.le
  have hscalar : isPrivateScalar k = true := isPrivateScalar_natCast.mpr (by omega)
  have hne := nsmul_base_ne_zero hscalar
  obtain ⟨a, ha⟩ := exists_coordinates hne
  have hlt : (k : ℤ) < 2 ^ 256 := by
    rw [← cast_scalarLimit]
    have := order_lt
    omega
  refine ⟨a, encoding (k • base), ?_, ?_, publicKey_eq hscalar, length_encoding hne,
    decompress_encoding ha⟩
  · rw [← coordinates_base, multiply_coordinates h0.le hlt, Int.toNat_natCast, ha]
  · rw [← ha, compress_coordinates hne]

/-- **No two private scalars have the same public key.** -/
theorem publicKey_inj {k l : ℤ} (hk0 : 0 < k) (hk : k < order) (hl0 : 0 < l) (hl : l < order) :
    publicKey k = publicKey l ↔ k = l := by
  lift k to ℕ using hk0.le
  lift l to ℕ using hl0.le
  rw [publicKey_eq (isPrivateScalar_natCast.mpr (by omega)),
    publicKey_eq (isPrivateScalar_natCast.mpr (by omega))]
  constructor
  · intro h
    have hmultiple := encoding_injective (Except.ok.inj h)
    rw [eq_of_nsmul_base_eq (by omega) (by omega) hmultiple]
  · intro h
    rw [Int.ofNat_inj.mp h]

theorem publicKey_eq_error {k : ℤ} (h : ¬(0 < k ∧ k < order)) :
    publicKey k = .error .privateScalarRange := by
  have hscalar : isPrivateScalar k = false := by rw [isPrivateScalar, decide_eq_false h]
  rw [publicKey, hscalar]
  rfl

end Curve

namespace KeyTree.ExtendedKey

/-! ## Counterparts -/

/-- Keys with the same bytes have the same key data in them. -/
theorem key_eq_of_equals {K L : ExtendedKey} (hK : K.isPrivate = false) (hL : L.isPrivate = false)
    (h : K.equals L = .ok true) : K.key = L.key := by
  unfold equals at h
  simp only [bind_eq_ok] at h
  obtain ⟨d, hd, e, he, heq⟩ := h
  have hde : d = e := decide_eq_true_eq.mp (Except.ok.inj heq)
  obtain ⟨m, -, -, rfl⟩ := serialize_eq_ok_iff.mp hd
  obtain ⟨n, -, -, rfl⟩ := serialize_eq_ok_iff.mp he
  have hdata := congrArg (List.drop 45) hde
  rw [Parts.drop_fortyFive, Parts.drop_fortyFive] at hdata
  rw [← keyData_of_not_isPrivate hK, ← keyData_of_not_isPrivate hL]
  exact hdata

theorem Counterpart.scalar_eq {k l K L : ExtendedKey} (hK : Counterpart k K) (hL : Counterpart l L)
    (h : K.key = L.key) : k.scalar = l.scalar := by
  have hk := Curve.isPrivateScalar_natCast.mp (isPrivateScalar_scalar hK.isPrivate)
  have hl := Curve.isPrivateScalar_natCast.mp (isPrivateScalar_scalar hL.isPrivate)
  rw [hK.key, hL.key] at h
  exact Curve.eq_of_nsmul_base_eq hk.2 hl.2 (Curve.encoding_injective h)

/-- **A public key tells its private scalar.** Every private scalar has one, 33 bytes of a point that is
never infinity; different scalars have different ones, and every other number is refused. So each
private extended key has a public counterpart, and keys with different scalars have counterparts that
differ and do not count as equal. -/
theorem publicKey_tells_scalar :
    (∀ k : ℤ, 0 < k → k < Curve.order →
      ∃ a d, Curve.multiply k (some Curve.generator) = .ok (some a) ∧
        Curve.compress (some a) = .ok d ∧ Curve.publicKey k = .ok d ∧ d.length = 33 ∧
        Curve.decompress d = .ok a) ∧
    (∀ k l : ℤ, 0 < k → k < Curve.order → 0 < l → l < Curve.order →
      (Curve.publicKey k = Curve.publicKey l ↔ k = l)) ∧
    (∀ k : ℤ, ¬(0 < k ∧ k < Curve.order) →
      Curve.publicKey k = .error .privateScalarRange ∧
        Error.privateScalarRange.kind = .parameter) ∧
    (∀ k : ExtendedKey, k.isPrivate = true → ∃ K, k.neuter = .ok K) ∧
    ∀ k l K L : ExtendedKey, k.isPrivate = true → l.isPrivate = true → k.neuter = .ok K →
      l.neuter = .ok L → k.scalar ≠ l.scalar →
      K.key ≠ L.key ∧ K ≠ L ∧ K.equals L ≠ .ok true := by
  refine ⟨fun k => Curve.exists_publicKey_eq, fun k l => Curve.publicKey_inj, ?refused, ?exist,
    ?counterparts⟩
  case refused =>
    intro k hk
    exact ⟨Curve.publicKey_eq_error hk, rfl⟩
  case exist =>
    intro k hk
    obtain ⟨K, hK⟩ := exists_counterpart hk
    exact ⟨K, (neuter_eq_ok_iff hk).mpr hK⟩
  case counterparts =>
    intro k l K L hk hl hkK hlL hne
    have hK := (neuter_eq_ok_iff hk).mp hkK
    have hL := (neuter_eq_ok_iff hl).mp hlL
    have hkey : K.key ≠ L.key := fun h => hne (hK.scalar_eq hL h)
    refine ⟨hkey, ?_, ?_⟩
    · intro h
      exact hkey (congrArg key h)
    · intro h
      exact hkey (key_eq_of_equals hK.not_isPrivate hL.not_isPrivate h)

/-- The unit key with the greatest scalar instead, whose public key has the same abscissa. -/
def oppositeKey : ExtendedKey :=
  { unitKey with key := Bytes.ofNat 32 (Curve.order - 1), key_ok := by decide }

theorem publicKey_tells_scalar_opposite :
    (∃ a d, Curve.multiply (Curve.order - 1) (some Curve.generator) = .ok (some a) ∧
      Curve.compress (some a) = .ok d ∧ Curve.publicKey (Curve.order - 1) = .ok d ∧ d.length = 33 ∧
      Curve.decompress d = .ok a) ∧
    (Curve.publicKey 1 = Curve.publicKey (Curve.order - 1) ↔ (1 : ℤ) = Curve.order - 1) ∧
    Curve.publicKey Curve.order = .error .privateScalarRange ∧
    ∃ K L, unitKey.isPrivate = true ∧ oppositeKey.isPrivate = true ∧ unitKey.neuter = .ok K ∧
      oppositeKey.neuter = .ok L ∧ unitKey.scalar ≠ oppositeKey.scalar ∧ K.key ≠ L.key ∧ K ≠ L ∧
      K.equals L ≠ .ok true := by
  obtain ⟨scalars, injective, refused, exist, counterparts⟩ := publicKey_tells_scalar
  obtain ⟨K, hK⟩ := exist unitKey rfl
  obtain ⟨L, hL⟩ := exist oppositeKey rfl
  have hne : unitKey.scalar ≠ oppositeKey.scalar := by decide
  exact ⟨scalars _ (by decide) (by decide), injective _ _ (by decide) (by decide) (by decide) (by decide),
    (refused _ (by decide)).1, K, L, rfl, rfl, hK, hL, hne, counterparts _ _ K L rfl rfl hK hL hne⟩

end KeyTree.ExtendedKey

end Airgap
