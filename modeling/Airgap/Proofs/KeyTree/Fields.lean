import Airgap.KeyTree.Derive
import Airgap.Proofs.Curve.Encoding
import Airgap.Proofs.Outcome

/-!
# The fields of extended keys

* `ofFields_eq_ok_iff`: the key of given fields is the one key that has them.
* `checkKey_secret`, `checkKey_publicOnly`: the key data that are accepted.
* `deriveChild_fields`, `depth_derivePath`: where a descendant stands in the tree.
-/

namespace Airgap.KeyTree

open Curve (base encoding isPrivateScalar)

theorem checkKey_secret {key : Bytes} : checkKey .secret key = .ok () ↔
    key.length = Curve.keySize ∧ isPrivateScalar (Bytes.toNat key) = true := by
  rw [checkKey]
  split
  · exact ⟨fun _ => ‹_›, fun _ => rfl⟩
  · exact ⟨fun h => (nomatch h), fun h => absurd h ‹_›⟩

theorem checkKey_publicOnly {key : Bytes} : checkKey .publicOnly key = .ok () ↔
    (key.length = Curve.keySize + 1 ∧ (key.head? = some 2 ∨ key.head? = some 3)) ∧
      ∃ a, Curve.decompress key = .ok a := by
  rw [checkKey]
  split
  · rw [discard_eq_ok]
    exact ⟨fun h => ⟨‹_›, h⟩, fun h => h.2⟩
  · exact ⟨fun h => (nomatch h), fun h => absurd h.1 ‹_›⟩

/-- A point other than infinity is a public key. -/
theorem checkKey_encoding {A : Curve.Group} (hA : A ≠ 0) :
    checkKey .publicOnly (encoding A) = .ok () := by
  obtain ⟨a, ha⟩ := Curve.exists_coordinates hA
  exact checkKey_publicOnly.mpr ⟨⟨Curve.length_encoding hA, Curve.head?_encoding hA⟩, a,
    Curve.decompress_encoding ha⟩

namespace ExtendedKey

/-- **The key of given fields** is the one key that has them, and there is none only if no key
has. -/
theorem ofFields_eq_ok_iff {kind : KeyKind} {key chainCode fingerprint : Bytes} {depth number : ℤ}
    {network : Network} {k : ExtendedKey} :
    ofFields kind key chainCode depth fingerprint number network = .ok k ↔
      k.kind = kind ∧ k.key = key ∧ k.chainCode = chainCode ∧ (k.depth : ℤ) = depth ∧
        k.parentFingerprint = fingerprint ∧ k.childNumber = number ∧ k.network = network := by
  constructor
  · intro h
    rw [ofFields] at h
    split at h
    · split at h
      · rename_i hd
        split at h
        · split at h
          · obtain rfl := Except.ok.inj h
            exact ⟨rfl, rfl, rfl, Int.toNat_of_nonneg hd.1, rfl, rfl, rfl⟩
          · exact nomatch h
        · exact nomatch h
      · exact nomatch h
    · exact nomatch h
  · obtain ⟨kd, ky, cc, dp, fp, num, net, hc, hd, hp, hk⟩ := k
    rintro ⟨rfl, rfl, rfl, rfl, rfl, rfl, rfl⟩
    rw [ofFields, dif_pos hc, dif_pos ⟨by omega, by exact_mod_cast hd⟩, dif_pos hp]
    split
    · rfl
    · rename_i e he
      exact absurd (hk.symm.trans he) (by simp)

theorem exists_ofFields {kind : KeyKind} {key chainCode fingerprint : Bytes} {depth : ℕ} (number : ℤ)
    (network : Network) (hchain : chainCode.length = 32) (hdepth : depth ≤ maxDepth)
    (hparent : fingerprint.length = 4) (hkey : checkKey kind key = .ok ()) :
    ∃ k, ofFields kind key chainCode depth fingerprint number network = .ok k :=
  ⟨⟨kind, key, chainCode, depth, fingerprint, number, network, hchain, hdepth, hparent, hkey⟩,
    ofFields_eq_ok_iff.mpr ⟨rfl, rfl, rfl, rfl, rfl, rfl, rfl⟩⟩

variable {k : ExtendedKey}

theorem isPrivate_iff : k.isPrivate = true ↔ k.kind = .secret := by
  rw [isPrivate, KeyKind.isPrivate, decide_eq_true_eq]

theorem isPrivate_eq_false_iff : k.isPrivate = false ↔ k.kind = .publicOnly := by
  rw [isPrivate, KeyKind.isPrivate, decide_eq_false_iff_not]
  cases k.kind <;> simp

/-- The number that the key data write, the scalar of a private key. -/
def scalar (k : ExtendedKey) : ℕ := Bytes.toNat k.key

theorem isPrivateScalar_scalar (h : k.isPrivate = true) : isPrivateScalar k.scalar = true := by
  have hok := k.key_ok
  rw [isPrivate_iff.mp h] at hok
  exact (checkKey_secret.mp hok).2

theorem publicKey_of_isPrivate (h : k.isPrivate = true) :
    k.publicKey = .ok (encoding (k.scalar • base)) := by
  rw [publicKey, if_pos h]
  exact Curve.publicKey_eq (isPrivateScalar_scalar h)

theorem publicKey_of_not_isPrivate (h : k.isPrivate = false) : k.publicKey = .ok k.key := by
  rw [publicKey, h]
  rfl

theorem exists_publicKey (k : ExtendedKey) : ∃ bs, k.publicKey = .ok bs := by
  cases h : k.isPrivate
  · exact ⟨_, publicKey_of_not_isPrivate h⟩
  · exact ⟨_, publicKey_of_isPrivate h⟩

theorem exists_fingerprint (k : ExtendedKey) :
    ∃ fp : Bytes, k.fingerprint = .ok fp ∧ fp.length = 4 := by
  obtain ⟨pub, hpub⟩ := exists_publicKey k
  refine ⟨(Digest.hash160 pub).take 4, ?_, by simp⟩
  rw [fingerprint, identifier, hpub]
  rfl

theorem exists_stepCode (k : ExtendedKey) (c : ChildNumber) :
    ∃ code : Bytes, k.stepCode c = .ok code ∧ code.length = 64 := by
  obtain ⟨pub, hpub⟩ := exists_publicKey k
  rw [stepCode]
  cases c.hardened
  · rw [hpub]
    exact ⟨_, rfl, Digest.length_value _⟩
  · exact ⟨_, rfl, Digest.length_value _⟩

/-! ## One step -/

variable {c : ChildNumber}

theorem deriveChild_hardened (hc : c.hardened = true) (hk : k.isPrivate = false) :
    k.deriveChild c = .error (.hardenedFromPublic c.index) := by
  rw [deriveChild, hc, hk]
  rfl

theorem deriveChild_maximumDepth (hc : c.hardened = false ∨ k.isPrivate = true)
    (hd : maxDepth ≤ k.depth) : k.deriveChild c = .error .maximumDepth := by
  have hguard : (c.hardened && !k.isPrivate) = false := by rcases hc with h | h <;> simp [h]
  rw [deriveChild, hguard, if_neg Bool.false_ne_true, if_pos hd]
  rfl

/-- Above the greatest depth a step is decided by its key data. -/
theorem deriveChild_eq (hc : c.hardened = false ∨ k.isPrivate = true) (hd : k.depth < maxDepth)
    {code fp : Bytes} (hcode : k.stepCode c = .ok code) (hfp : k.fingerprint = .ok fp) :
    k.deriveChild c = k.childKey c (Bytes.toNat (code.take 32)) >>= fun key =>
      ofFields k.kind key (code.drop 32) (k.depth + 1) fp c.raw k.network := by
  have hguard : (c.hardened && !k.isPrivate) = false := by rcases hc with h | h <;> simp [h]
  rw [deriveChild, hguard, if_neg Bool.false_ne_true, if_neg (by omega), hcode, hfp]
  rfl

/-! ## Descendants -/

/-- What a child has of its parent and its step, whatever its key is. -/
theorem deriveChild_fields {step : ChildNumber} {child : ExtendedKey}
    (h : k.deriveChild step = .ok child) :
    child.kind = k.kind ∧ child.depth = k.depth + 1 ∧ child.childNumber = step.raw ∧
      child.network = k.network := by
  rw [deriveChild] at h
  split at h
  · exact nomatch h
  · split at h
    · exact nomatch h
    · simp only [bind_eq_ok] at h
      obtain ⟨code, -, key, -, fp, -, h⟩ := h
      obtain ⟨hkind, -, -, hdepth, -, hnumber, hnetwork⟩ := ofFields_eq_ok_iff.mp h
      exact ⟨hkind, by omega, hnumber, hnetwork⟩

theorem derivePath_cons (k : ExtendedKey) (c : ChildNumber) (cs : List ChildNumber) :
    k.derivePath ⟨c :: cs⟩ = k.deriveChild c >>= fun m => m.derivePath ⟨cs⟩ := rfl

/-- A path of two parts leads through the key at the end of the first. -/
theorem derivePath_append (k : ExtendedKey) (cs ds : List ChildNumber) :
    k.derivePath ⟨cs ++ ds⟩ = k.derivePath ⟨cs⟩ >>= fun m => m.derivePath ⟨ds⟩ := by
  induction cs generalizing k with
  | nil => rfl
  | cons c cs ih =>
    rw [List.cons_append, derivePath_cons, derivePath_cons]
    cases k.deriveChild c with
    | error e => rfl
    | ok m => exact ih m

/-- Every step leads one level down. -/
theorem depth_derivePath {cs : List ChildNumber} {d : ExtendedKey}
    (h : k.derivePath ⟨cs⟩ = .ok d) : d.depth = k.depth + cs.length := by
  induction cs generalizing k with
  | nil =>
    obtain rfl := Except.ok.inj h
    rfl
  | cons c cs ih =>
    rw [derivePath_cons, bind_eq_ok] at h
    obtain ⟨m, hm, h⟩ := h
    have hdepth := (deriveChild_fields hm).2.1
    rw [ih h, hdepth, List.length_cons]
    omega

end ExtendedKey

end Airgap.KeyTree
