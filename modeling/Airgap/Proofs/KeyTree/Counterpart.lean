import Airgap.Proofs.KeyTree.Fields
import Mathlib.Data.List.TakeWhile

/-!
# Public derivation follows private derivation

A private key and its public counterpart have children at the same unhardened steps, and those are
counterparts again: the private side adds scalars modulo the order, the public side adds the points
that they are multiples of the base point.

* `Counterpart`: the fields of a key and of what `neuter` makes of it.
* `Counterpart.childKey`: the same sum, in scalars and in points.
* `Counterpart.deriveChild`: one step; `Counterpart.derivePath`: a path.
* `derivePath_neuter`: the whole statement, with what stops the public side at a hardened step.
-/

namespace Airgap.KeyTree

open Curve (base encoding isPrivateScalar)

/-- The unhardened steps at the start of a path. -/
def Path.unhardened (p : Path) : Path := ⟨p.steps.takeWhile (!·.hardened)⟩

theorem Path.hardened_of_mem_unhardened (p : Path) {c : ChildNumber}
    (hc : c ∈ p.unhardened.steps) : c.hardened = false := by
  simpa using List.mem_takeWhile_imp hc

/-- What a path has behind its unhardened start begins with its first hardened step. -/
theorem Path.steps_eq (p : Path) {step : ChildNumber}
    (h : p.steps.find? (·.hardened) = some step) :
    step.hardened = true ∧ ∃ after, p.steps = p.unhardened.steps ++ step :: after := by
  obtain ⟨hstep, before, after, hsteps, hbefore⟩ := List.find?_eq_some_iff_append.mp h
  refine ⟨hstep, after, ?_⟩
  have htake : p.unhardened.steps = before := by
    simp only [Path.unhardened, hsteps]
    rw [List.takeWhile_append_of_pos hbefore]
    simp [hstep]
  rw [htake, hsteps]

namespace ExtendedKey

/-- Derivation along `p` comes to `before`, and the next step fails with `e`. -/
def StopsAt (root : ExtendedKey) (p : Path) (before : List ChildNumber) (step : ChildNumber)
    (e : Error) : Prop :=
  (∃ after, p.steps = before ++ step :: after) ∧
    (∃ m, root.derivePath ⟨before⟩ = .ok m ∧ m.deriveChild step = .error e) ∧
    root.derivePath p = .error e

/-- `K` is the public counterpart of the private key `k`. -/
structure Counterpart (k K : ExtendedKey) : Prop where
  isPrivate : k.isPrivate = true
  kind : K.kind = .publicOnly
  key : K.key = encoding (k.scalar • base)
  chainCode : K.chainCode = k.chainCode
  depth : K.depth = k.depth
  parentFingerprint : K.parentFingerprint = k.parentFingerprint
  childNumber : K.childNumber = k.childNumber
  network : K.network = k.network

theorem neuter_eq_ok_iff {k K : ExtendedKey} (hk : k.isPrivate = true) :
    k.neuter = .ok K ↔ Counterpart k K := by
  rw [neuter, if_pos hk, publicKey_of_isPrivate hk, ok_bind, ofFields_eq_ok_iff]
  constructor
  · rintro ⟨h1, h2, h3, h4, h5, h6, h7⟩
    exact ⟨hk, h1, h2, h3, by omega, h5, h6, h7⟩
  · intro h
    exact ⟨h.kind, h.key, h.chainCode, by rw [h.depth], h.parentFingerprint, h.childNumber, h.network⟩

theorem exists_counterpart {k : ExtendedKey} (hk : k.isPrivate = true) : ∃ K, Counterpart k K :=
  ⟨⟨.publicOnly, encoding (k.scalar • base), k.chainCode, k.depth, k.parentFingerprint,
    k.childNumber, k.network, k.length_chainCode, k.depth_le, k.length_parentFingerprint,
    checkKey_encoding (Curve.nsmul_base_ne_zero (isPrivateScalar_scalar hk))⟩,
    hk, rfl, rfl, rfl, rfl, rfl, rfl, rfl⟩

/-! ## One step -/

namespace Counterpart

variable {k K : ExtendedKey}

theorem not_isPrivate (h : Counterpart k K) : K.isPrivate = false := by
  rw [ExtendedKey.isPrivate, h.kind]
  rfl

theorem publicKey (h : Counterpart k K) : K.publicKey = .ok (encoding (k.scalar • base)) := by
  rw [publicKey_of_not_isPrivate h.not_isPrivate, h.key]

theorem publicKey_eq (h : Counterpart k K) : K.publicKey = k.publicKey := by
  rw [h.publicKey, publicKey_of_isPrivate h.isPrivate]

theorem fingerprint_eq (h : Counterpart k K) : K.fingerprint = k.fingerprint := by
  rw [fingerprint, fingerprint, identifier, identifier, h.publicKey_eq]

theorem stepCode_eq (h : Counterpart k K) {c : ChildNumber} (hc : c.hardened = false) :
    K.stepCode c = k.stepCode c := by
  rw [stepCode, stepCode, hc, if_neg Bool.false_ne_true, if_neg Bool.false_ne_true, h.publicKey_eq,
    h.chainCode]

/-- **The key data of a child** is refused on both sides, or is a scalar and its multiple of the base
point. -/
theorem childKey (h : Counterpart k K) (c : ChildNumber) (left : ℕ) :
    (k.childKey c left = .error (.invalidChild c.index c.hardened) ∧
      K.childKey c left = .error (.invalidChild c.index c.hardened)) ∨
    ∃ s, isPrivateScalar (s : ℕ) = true ∧ k.childKey c left = .ok (Bytes.ofNat Curve.keySize s) ∧
      K.childKey c left = .ok (encoding (s • base)) := by
  rw [ExtendedKey.childKey, ExtendedKey.childKey, h.isPrivate, h.not_isPrivate]
  by_cases hleft : Curve.order ≤ left
  · rw [if_pos hleft, if_pos hleft]
    exact .inl ⟨rfl, rfl⟩
  · have hk := Curve.nsmul_base_ne_zero (isPrivateScalar_scalar h.isPrivate)
    obtain ⟨a, ha⟩ := Curve.exists_coordinates hk
    have hsum : Curve.add (Curve.multiple left (some Curve.generator)) (some a) =
        Curve.coordinates ((left + k.scalar) • base) := by
      have horder := Curve.order_lt
      rw [Curve.multiple_generator (by omega), ← ha, Curve.add_coordinates, add_nsmul]
    rw [if_neg hleft, if_neg hleft, h.key, Curve.decompress_encoding ha, ok_bind, hsum, if_pos rfl,
      if_neg Bool.false_ne_true]
    by_cases hzero : (left + k.scalar) % Curve.order = 0
    · rw [Curve.nsmul_base_eq_zero.mpr hzero]
      exact .inl ⟨if_pos hzero, rfl⟩
    · have hpos : 0 < Curve.order := by decide
      have hs : isPrivateScalar (((left + k.scalar) % Curve.order : ℕ) : ℤ) = true :=
        Curve.isPrivateScalar_natCast.mpr ⟨by omega, Nat.mod_lt _ hpos⟩
      have hne := Curve.nsmul_base_ne_zero hs
      obtain ⟨b, hb⟩ := Curve.exists_coordinates hne
      have hcompress := Curve.compress_coordinates hne
      rw [← Curve.nsmul_base_mod, hb]
      rw [hb] at hcompress
      exact .inr ⟨_, hs, if_neg hzero, hcompress⟩

/-- **One unhardened step** leads from counterparts to counterparts, or fails in the same way. -/
theorem deriveChild (h : Counterpart k K) {c : ChildNumber} (hc : c.hardened = false) :
    (∃ d D, k.deriveChild c = .ok d ∧ K.deriveChild c = .ok D ∧ Counterpart d D) ∨
    ∃ e, k.deriveChild c = .error e ∧ K.deriveChild c = .error e ∧
      (e = .invalidChild c.index false ∨ e = .maximumDepth ∧ k.depth = maxDepth) := by
  by_cases hdepth : maxDepth ≤ k.depth
  · have hle := k.depth_le
    exact .inr ⟨.maximumDepth, deriveChild_maximumDepth (.inl hc) hdepth,
      deriveChild_maximumDepth (.inl hc) (by rw [h.depth]; exact hdepth), .inr ⟨rfl, by omega⟩⟩
  · obtain ⟨fp, hfp, hfplen⟩ := exists_fingerprint k
    obtain ⟨code, hcode, hlen⟩ := exists_stepCode k c
    have hchain : (code.drop 32).length = 32 := by rw [List.length_drop, hlen]
    rw [deriveChild_eq (.inl hc) (by omega) hcode hfp,
      deriveChild_eq (.inl hc) (by rw [h.depth]; omega) ((h.stepCode_eq hc).trans hcode)
        (h.fingerprint_eq.trans hfp), h.depth, h.network, h.kind, isPrivate_iff.mp h.isPrivate]
    rcases h.childKey c (Bytes.toNat (code.take 32)) with ⟨hk, hK⟩ | ⟨s, hs, hk, hK⟩
    · rw [hk, hK, hc]
      exact .inr ⟨_, rfl, rfl, .inl rfl⟩
    · have hlt : s < Bytes.capacity Curve.keySize :=
        (Curve.isPrivateScalar_natCast.mp hs).2.trans (by decide)
      have hsk : checkKey .secret (Bytes.ofNat Curve.keySize s) = .ok () := by
        rw [checkKey_secret, Bytes.length_ofNat, Bytes.toNat_ofNat_of_lt hlt]
        exact ⟨rfl, hs⟩
      have hpk := checkKey_encoding (Curve.nsmul_base_ne_zero hs)
      have hd : k.depth + 1 ≤ maxDepth := by omega
      rw [hk, hK]
      refine .inl ⟨⟨_, _, _, k.depth + 1, _, c.raw, k.network, hchain, hd, hfplen, hsk⟩,
        ⟨_, _, _, k.depth + 1, _, c.raw, k.network, hchain, hd, hfplen, hpk⟩,
        ofFields_eq_ok_iff.mpr ⟨rfl, rfl, rfl, rfl, rfl, rfl, rfl⟩,
        ofFields_eq_ok_iff.mpr ⟨rfl, rfl, rfl, rfl, rfl, rfl, rfl⟩,
        ⟨rfl, rfl, ?_, rfl, rfl, rfl, rfl, rfl⟩⟩
      simp only [scalar, Bytes.toNat_ofNat_of_lt hlt]

end Counterpart

/-! ## A path -/

theorem StopsAt.head {k : ExtendedKey} {c : ChildNumber} {cs : List ChildNumber} {e : Error}
    (h : k.deriveChild c = .error e) : StopsAt k ⟨c :: cs⟩ [] c e := by
  refine ⟨⟨cs, rfl⟩, ⟨k, rfl, h⟩, ?_⟩
  rw [derivePath_cons, h, error_bind]

theorem StopsAt.cons {k d : ExtendedKey} {c step : ChildNumber} {cs before : List ChildNumber}
    {e : Error} (hd : k.deriveChild c = .ok d) (h : StopsAt d ⟨cs⟩ before step e) :
    StopsAt k ⟨c :: cs⟩ (c :: before) step e := by
  obtain ⟨⟨after, hcs⟩, ⟨m, hm, hfail⟩, hpath⟩ := h
  refine ⟨⟨after, congrArg (c :: ·) hcs⟩, ⟨m, ?_, hfail⟩, ?_⟩
  · rw [derivePath_cons, hd, ok_bind, hm]
  · rw [derivePath_cons, hd, ok_bind, hpath]

/-- **Unhardened steps** lead from counterparts to counterparts, or stop at the same step with the same
failure. -/
theorem Counterpart.derivePath {k K : ExtendedKey} (h : Counterpart k K) {cs : List ChildNumber}
    (hcs : ∀ c ∈ cs, c.hardened = false) :
    (∃ d D, k.derivePath ⟨cs⟩ = .ok d ∧ K.derivePath ⟨cs⟩ = .ok D ∧ Counterpart d D) ∨
    ∃ before step e, StopsAt k ⟨cs⟩ before step e ∧ StopsAt K ⟨cs⟩ before step e ∧
      (e = .invalidChild step.index false ∨
        e = .maximumDepth ∧ k.depth + before.length = maxDepth) := by
  induction cs generalizing k K with
  | nil => exact .inl ⟨k, K, rfl, rfl, h⟩
  | cons c cs ih =>
    have hc := hcs c List.mem_cons_self
    rcases h.deriveChild hc with ⟨m, M, hm, hM, hmM⟩ | ⟨e, hk, hK, he⟩
    · rcases ih hmM fun b hb => hcs b (List.mem_cons_of_mem c hb) with
        ⟨d, D, hd, hD, hdD⟩ | ⟨before, step, e, hk, hK, he⟩
      · refine .inl ⟨d, D, ?_, ?_, hdD⟩
        · rw [derivePath_cons, hm, ok_bind, hd]
        · rw [derivePath_cons, hM, ok_bind, hD]
      · have hdepth := (deriveChild_fields hm).2.1
        refine .inr ⟨c :: before, step, e, hk.cons hm, hK.cons hM, he.imp_right fun ⟨hmax, hsum⟩ => ?_⟩
        exact ⟨hmax, by rw [List.length_cons]; omega⟩
    · exact .inr ⟨[], c, e, .head hk, .head hK, he⟩

/-- **Public derivation follows private derivation.** Along the unhardened start of any path a private
key and its counterpart come to counterparts, with the same fields, or stop at the same step with the
same failure; the hardened step behind it stops the public side. -/
theorem derivePath_neuter {k : ExtendedKey} (hk : k.isPrivate = true) (p : Path) :
    ∃ K, k.neuter = .ok K ∧
      ((∃ d D, k.derivePath p.unhardened = .ok d ∧ K.derivePath p.unhardened = .ok D ∧
          d.neuter = .ok D) ∨
        ∃ before step e, StopsAt k p.unhardened before step e ∧
          StopsAt K p.unhardened before step e ∧
          (e = .invalidChild step.index false ∨
            e = .maximumDepth ∧ k.depth + before.length = maxDepth)) ∧
      ∀ step d, p.steps.find? (·.hardened) = some step → k.derivePath p.unhardened = .ok d →
        K.derivePath p = .error (.hardenedFromPublic step.index) := by
  obtain ⟨K, hK⟩ := exists_counterpart hk
  have hpath := hK.derivePath fun c hc => p.hardened_of_mem_unhardened hc
  refine ⟨K, (neuter_eq_ok_iff hk).mpr hK, ?_, ?_⟩
  · refine hpath.imp_left fun ⟨d, D, hd, hD, hdD⟩ => ⟨d, D, hd, hD, ?_⟩
    exact (neuter_eq_ok_iff hdD.isPrivate).mpr hdD
  · intro step d hstep hd
    rcases hpath with ⟨d', D, -, hD, hdD⟩ | ⟨before, c, e, hstop, -⟩
    · obtain ⟨hhard, after, hsteps⟩ := p.steps_eq hstep
      have hp : p = ⟨p.unhardened.steps ++ step :: after⟩ := by rw [← hsteps]
      rw [hp, derivePath_append, hD, ok_bind, derivePath_cons,
        deriveChild_hardened hhard hdD.not_isPrivate, error_bind]
    · exact absurd (hstop.2.2.symm.trans hd) (by simp)

/-- The private key with scalar one and a chain code of zeros, at depth 254. -/
def unitKey : ExtendedKey :=
  ⟨.secret, Bytes.ofNat 32 1, List.replicate 32 0, 254, zeroFingerprint, 0, .mainnet, by decide,
    by decide, by decide, by decide⟩

/-- The path `m/0/1/2'`, whose second step lies too deep below `unitKey`. -/
def deepPath : Path := ⟨[⟨0, false, by decide⟩, ⟨1, false, by decide⟩, ⟨2, true, by decide⟩]⟩

theorem derivePath_neuter_unitKey :
    unitKey.isPrivate = true ∧ ∃ K, unitKey.neuter = .ok K ∧
      ((∃ d D, unitKey.derivePath deepPath.unhardened = .ok d ∧
          K.derivePath deepPath.unhardened = .ok D ∧ d.neuter = .ok D) ∨
        ∃ before step e, StopsAt unitKey deepPath.unhardened before step e ∧
          StopsAt K deepPath.unhardened before step e ∧
          (e = .invalidChild step.index false ∨
            e = .maximumDepth ∧ unitKey.depth + before.length = maxDepth)) ∧
      ∀ step d, deepPath.steps.find? (·.hardened) = some step →
        unitKey.derivePath deepPath.unhardened = .ok d →
        K.derivePath deepPath = .error (.hardenedFromPublic step.index) :=
  ⟨rfl, derivePath_neuter rfl deepPath⟩

end ExtendedKey

end Airgap.KeyTree
