import Airgap.Curve.PrivateKey
import Airgap.Proofs.Curve.Multiple
import Airgap.Proofs.Outcome

/-!
# Elements of the group as bytes

* `encoding`: the 33 bytes that a point other than infinity is compressed to.
* `readPoint_compressed`: what 33 bytes claim to be; `decompress_encoding`: reading the bytes of a
  point gives the point back.
* `publicKey_eq`: the public key of a private scalar is the encoding of its multiple of the base
  point, which is never infinity.
-/

namespace Airgap.Curve

/-- The parity byte and the abscissa of a point. -/
def affineBytes (a : Affine) : Bytes :=
  UInt8.ofNat (2 + a.y % 2).toNat :: Bytes.ofNat keySize a.x.toNat

/-- The compressed form of a group element, nothing for the point at infinity. -/
def encoding (A : Group) : Bytes :=
  match coordinates A with
  | none => []
  | some a => affineBytes a

theorem exists_coordinates {A : Group} (hA : A ≠ 0) : ∃ a, coordinates A = some a :=
  Option.ne_none_iff_exists'.mp (coordinates_eq_none.not.mpr hA)

theorem encoding_eq {A : Group} {a : Affine} (h : coordinates A = some a) :
    encoding A = affineBytes a := by
  rw [encoding, h]

theorem fieldPrime_lt_capacity : fieldPrime < Bytes.capacity keySize := by decide

theorem toNat_affineMarker {y : ℤ} : ((UInt8.ofNat (2 + y % 2).toNat).toNat : ℤ) = 2 + y % 2 := by
  rw [UInt8.toNat_ofNat']
  omega

theorem affineMarker_eq (y : ℤ) :
    UInt8.ofNat (2 + y % 2).toNat = 2 ∨ UInt8.ofNat (2 + y % 2).toNat = 3 := by
  rcases Int.emod_two_eq_zero_or_one y with h | h <;> rw [h] <;> decide

theorem compress_coordinates {A : Group} (hA : A ≠ 0) :
    compress (coordinates A) = .ok (encoding A) := by
  obtain ⟨a, ha⟩ := exists_coordinates hA
  obtain ⟨⟨hx0, hxp⟩, -, -⟩ := of_coordinates ha
  have hlt := fieldPrime_lt_capacity
  rw [encoding_eq ha, ha, compress, fixedBytes, if_neg (by omega), if_pos (by omega)]
  rfl

theorem length_affineBytes (a : Affine) : (affineBytes a).length = keySize + 1 := by
  rw [affineBytes, List.length_cons, Bytes.length_ofNat]

theorem length_encoding {A : Group} (hA : A ≠ 0) : (encoding A).length = keySize + 1 := by
  obtain ⟨a, ha⟩ := exists_coordinates hA
  rw [encoding_eq ha, length_affineBytes]

theorem head?_encoding {A : Group} (hA : A ≠ 0) :
    (encoding A).head? = some 2 ∨ (encoding A).head? = some 3 := by
  obtain ⟨a, ha⟩ := exists_coordinates hA
  rw [encoding_eq ha, affineBytes, List.head?_cons]
  exact (affineMarker_eq a.y).imp (congrArg some) (congrArg some)

/-! ## Reading the bytes -/

/-- Reading ends with the check that the point is on the curve. -/
theorem decompress_eq_ok_iff {data : Bytes} {a : Affine} :
    decompress data = .ok a ↔ readPoint data = .ok a ∧ isOnCurve (some a) = true := by
  rw [decompress, bind_eq_ok]
  constructor
  · rintro ⟨b, hread, hb⟩
    split at hb
    · obtain rfl := Except.ok.inj hb
      exact ⟨hread, ‹_›⟩
    · exact nomatch hb
  · rintro ⟨hread, hcurve⟩
    exact ⟨a, hread, by rw [if_pos hcurve]; rfl⟩

/-- What 33 bytes claim to be: the marker picks the parity of the ordinate. -/
theorem readPoint_compressed {marker : UInt8} {abscissa : Bytes} (hlen : abscissa.length = keySize) :
    readPoint (marker :: abscissa) =
      if marker = 2 ∨ marker = 3 then
        let x : ℤ := Bytes.toNat abscissa
        if fieldPrime ≤ x then .error .coordinateRange
        else
          let root := power ((x * x * x + coefficient) % fieldPrime) rootExponent
          .ok ⟨x, if root % 2 = marker.toNat % 2 then root else fieldPrime - root⟩
      else .error .pointLength := by
  have hcons : (marker :: abscissa).length = 33 := by rw [List.length_cons, hlen]; rfl
  simp only [readPoint, hcons, show ¬((33 : ℕ) = 65 ∧ marker = 4) by simp, if_false, true_and]

/-- Of the two square roots the parity picks the one that was written. -/
theorem root_of_parity {x y : ℤ} (hy : Reduced y) (h : (y : Residue) ^ 2 = (x : Residue) ^ 3 + 7) :
    let root := power ((x * x * x + coefficient) % fieldPrime) rootExponent
    (if root % 2 = y % 2 then root else fieldPrime - root) = y := by
  intro root
  have hroot : Reduced root := reduced_power _ _
  have hcast : (((x * x * x + coefficient) % fieldPrime : ℤ) : Residue) = (y : Residue) ^ 2 := by
    rw [h, residue_emod, Int.cast_add, Int.cast_mul, Int.cast_mul, coefficient, Int.cast_ofNat]
    ring
  have hsq : ((root : Residue) - y) * ((root : Residue) + y) = 0 := by
    linear_combination residue_root hcast + hcast
  rcases mul_eq_zero.mp hsq with hsame | hopposite
  · rw [if_pos (by rw [(residue_inj hroot hy).mp (sub_eq_zero.mp hsame)])]
    exact (residue_inj hroot hy).mp (sub_eq_zero.mp hsame)
  · -- the roots are opposite, so that they add up to the odd prime or are both zero
    have hmod : (root + y) % fieldPrime = 0 := by
      refine (residue_eq_zero (reduced_emod _)).mp ?_
      rw [residue_emod, Int.cast_add]
      exact hopposite
    obtain ⟨c, hc⟩ := Int.dvd_of_emod_eq_zero hmod
    have hodd : fieldPrime % 2 = 1 := by decide
    obtain ⟨hr0, hrp⟩ := hroot
    obtain ⟨hy0, hyp⟩ := hy
    have hc2 : c < 2 := by
      by_contra hge
      have : fieldPrime * 2 ≤ fieldPrime * c := Int.mul_le_mul_of_nonneg_left (by omega) (by omega)
      omega
    have hc0 : 0 ≤ c := by
      by_contra hneg
      have : fieldPrime * c ≤ fieldPrime * (-1) :=
        Int.mul_le_mul_of_nonneg_left (by omega) (by omega)
      omega
    obtain rfl | rfl : c = 0 ∨ c = 1 := by omega
    · split <;> omega
    · split <;> omega

/-- **Reading a compressed point gives the point back.** -/
theorem decompress_encoding {A : Group} {a : Affine} (ha : coordinates A = some a) :
    decompress (encoding A) = .ok a := by
  obtain ⟨⟨hx0, hxp⟩, hy, heq⟩ := of_coordinates ha
  have hlt := fieldPrime_lt_capacity
  have hnum : (Bytes.toNat (Bytes.ofNat keySize a.x.toNat) : ℤ) = a.x := by
    rw [Bytes.toNat_ofNat_of_lt (by omega), Int.toNat_of_nonneg hx0]
  have hpar : ∀ r : ℤ, r % 2 = ((UInt8.ofNat (2 + a.y % 2).toNat).toNat : ℤ) % 2 ↔
      r % 2 = a.y % 2 := by
    intro r
    rw [toNat_affineMarker]
    omega
  have hread : readPoint (encoding A) = .ok a := by
    rw [encoding_eq ha, affineBytes, readPoint_compressed (Bytes.length_ofNat _ _),
      if_pos (affineMarker_eq a.y)]
    simp only [hnum, hpar, root_of_parity hy heq]
    rw [if_neg (not_le.mpr hxp)]
  exact decompress_eq_ok_iff.mpr ⟨hread, isOnCurve_iff.mpr ⟨A, ha⟩⟩

/-- Different elements have different encodings. -/
theorem encoding_injective : Function.Injective encoding := by
  intro A B h
  have hzero : encoding 0 = [] := rfl
  by_cases hA : A = 0
  · subst hA
    by_contra hB
    have hlen := length_encoding (Ne.symm hB)
    rw [← h, hzero] at hlen
    exact absurd hlen (by decide)
  · by_cases hB : B = 0
    · subst hB
      have hlen := length_encoding hA
      rw [h, hzero] at hlen
      exact absurd hlen (by decide)
    · obtain ⟨a, ha⟩ := exists_coordinates hA
      obtain ⟨b, hb⟩ := exists_coordinates hB
      have hread := decompress_encoding ha
      rw [h, decompress_encoding hb] at hread
      obtain rfl := Except.ok.inj hread
      exact coordinates_injective (ha.trans hb.symm)

/-! ## Public keys -/

theorem isPrivateScalar_natCast {k : ℕ} : isPrivateScalar k = true ↔ 0 < k ∧ k < order := by
  rw [isPrivateScalar, decide_eq_true_eq]
  omega

theorem nsmul_base_ne_zero {k : ℕ} (hk : isPrivateScalar k = true) : k • base ≠ 0 := by
  obtain ⟨h0, hlt⟩ := isPrivateScalar_natCast.mp hk
  rw [ne_eq, nsmul_base_eq_zero, Nat.mod_eq_of_lt hlt]
  omega

/-- **The public key of a private scalar** is its multiple of the base point in compressed form. -/
theorem publicKey_eq {k : ℕ} (hk : isPrivateScalar k = true) :
    publicKey k = .ok (encoding (k • base)) := by
  have hlt : k < scalarLimit := (isPrivateScalar_natCast.mp hk).2.trans order_lt
  rw [publicKey, hk, Int.toNat_natCast, multiple_generator hlt,
    compress_coordinates (nsmul_base_ne_zero hk)]
  rfl

end Airgap.Curve
