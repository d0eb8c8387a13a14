import Airgap.Proofs.Curve.Addition
import Airgap.Proofs.Curve.Encoding

/-!
# Byte strings as points

* `decompress_compressed_iff`, `decompress_full_iff`: the byte strings of a point, the 33 bytes with
  the parity of its ordinate and the 65 with both coordinates.
* `kind_of_decompress_eq_error`: every other byte string is refused in one way.
* `decompress_bijection`: compressing and decompressing are inverse to each other.
-/

namespace Airgap.Curve

variable {a : Affine} {data : Bytes}

/-! ## Points on the curve -/

theorem compress_of_isOnCurve (h : isOnCurve (some a) = true) :
    compress (some a) = .ok (affineBytes a) := by
  obtain ⟨A, hA⟩ := isOnCurve_iff.mp h
  have hne : A ≠ 0 := by
    rintro rfl
    exact nomatch hA
  rw [← hA, compress_coordinates hne, encoding_eq hA]

theorem decompress_affineBytes (h : isOnCurve (some a) = true) :
    decompress (affineBytes a) = .ok a := by
  obtain ⟨A, hA⟩ := isOnCurve_iff.mp h
  rw [← encoding_eq hA]
  exact decompress_encoding hA

/-! ## The compressed form -/

/-- One of a number and its complement in an odd number has the parity that is asked for. -/
theorem parity_of_choice {root parity : ℤ} (h : parity = 0 ∨ parity = 1) :
    (if root % 2 = parity then root else fieldPrime - root) % 2 = parity := by
  have hodd : fieldPrime % 2 = 1 := by decide
  split
  · assumption
  · omega

theorem affineBytes_eq {marker : UInt8} {abscissa : Bytes} (hlen : abscissa.length = keySize)
    (hmarker : marker = 2 ∨ marker = 3) (hx : a.x = Bytes.toNat abscissa)
    (hy : a.y % 2 = marker.toNat % 2) : affineBytes a = marker :: abscissa := by
  have hfirst : UInt8.ofNat (2 + a.y % 2).toNat = marker := by
    rcases hmarker with rfl | rfl <;> rw [hy] <;> decide
  rw [affineBytes, hfirst, hx, Int.toNat_natCast, ← hlen, Bytes.ofNat_toNat]

/-- **33 bytes are a point** if their marker is the parity of an ordinate that goes with the
abscissa. -/
theorem decompress_compressed_iff {marker : UInt8} {abscissa : Bytes}
    (hlen : abscissa.length = keySize) :
    decompress (marker :: abscissa) = .ok a ↔
      (marker = 2 ∨ marker = 3) ∧ a.x = Bytes.toNat abscissa ∧ a.y % 2 = marker.toNat % 2 ∧
        isOnCurve (some a) = true := by
  constructor
  · intro h
    obtain ⟨hread, hcurve⟩ := decompress_eq_ok_iff.mp h
    rw [readPoint_compressed hlen] at hread
    split at hread
    · rename_i hmarker
      dsimp only at hread
      split at hread
      · exact nomatch hread
      · obtain rfl := Except.ok.inj hread
        refine ⟨hmarker, rfl, ?_, hcurve⟩
        -- the ordinate may be the prime itself, if the root is zero; then the point is off the curve
        dsimp only
        apply parity_of_choice
        omega
    · exact nomatch hread
  · rintro ⟨hmarker, hx, hy, hcurve⟩
    rw [← affineBytes_eq hlen hmarker hx hy]
    exact decompress_affineBytes hcurve

/-- 33 bytes are some point if a point of the curve has their abscissa, since its mirror image has the
other parity. -/
theorem exists_decompress_compressed_iff {marker : UInt8} {abscissa : Bytes}
    (hlen : abscissa.length = keySize) :
    (∃ a, decompress (marker :: abscissa) = .ok a) ↔
      (marker = 2 ∨ marker = 3) ∧
        ∃ a : Affine, a.x = Bytes.toNat abscissa ∧ isOnCurve (some a) = true := by
  constructor
  · rintro ⟨a, h⟩
    obtain ⟨hmarker, hx, -, hcurve⟩ := (decompress_compressed_iff hlen).mp h
    exact ⟨hmarker, a, hx, hcurve⟩
  · rintro ⟨hmarker, a, hx, hcurve⟩
    by_cases hy : a.y % 2 = marker.toNat % 2
    · exact ⟨a, (decompress_compressed_iff hlen).mpr ⟨hmarker, hx, hy, hcurve⟩⟩
    · have hodd : fieldPrime % 2 = 1 := by decide
      refine ⟨⟨a.x, fieldPrime - a.y⟩, (decompress_compressed_iff hlen).mpr ⟨hmarker, hx, ?_,
        isOnCurve_mirror hcurve⟩⟩
      dsimp only
      omega

/-! ## The form with both coordinates -/

/-- The 65 bytes of a point: a marker and both coordinates. -/
def fullBytes (a : Affine) : Bytes :=
  4 :: (Bytes.ofNat keySize a.x.toNat ++ Bytes.ofNat keySize a.y.toNat)

theorem readPoint_fullBytes (hx : Reduced a.x) (hy : Reduced a.y) :
    readPoint (fullBytes a) = .ok a := by
  have hlt := fieldPrime_lt_capacity
  obtain ⟨hx0, hxp⟩ := hx
  obtain ⟨hy0, hyp⟩ := hy
  have htake : (Bytes.ofNat keySize a.x.toNat ++ Bytes.ofNat keySize a.y.toNat).take 32 =
      Bytes.ofNat keySize a.x.toNat := List.take_left' (Bytes.length_ofNat _ _)
  have hdrop : (Bytes.ofNat keySize a.x.toNat ++ Bytes.ofNat keySize a.y.toNat).drop 32 =
      Bytes.ofNat keySize a.y.toNat := List.drop_left' (Bytes.length_ofNat _ _)
  have hlen : (fullBytes a).length = 65 := by
    rw [fullBytes, List.length_cons, List.length_append, Bytes.length_ofNat, Bytes.length_ofNat]
    rfl
  rw [fullBytes] at hlen ⊢
  rw [readPoint, if_pos ⟨hlen, rfl⟩, htake, hdrop, Bytes.toNat_ofNat_of_lt (by omega),
    Bytes.toNat_ofNat_of_lt (by omega), Int.toNat_of_nonneg hx0, Int.toNat_of_nonneg hy0]

theorem eq_fullBytes_of_readPoint (hlen : data.length ≠ 33) (h : readPoint data = .ok a) :
    data = fullBytes a := by
  cases data with
  | nil => exact nomatch h
  | cons marker rest =>
    unfold readPoint at h
    dsimp only at h
    split at h
    · rename_i hform
      have hrest : rest.length = 64 := Nat.succ.inj hform.1
      have hfront : (rest.take 32).length = keySize := by rw [List.length_take, hrest]; rfl
      have hback : (rest.drop 32).length = keySize := by rw [List.length_drop, hrest]; rfl
      obtain rfl := Except.ok.inj h
      rw [fullBytes, Int.toNat_natCast, Int.toNat_natCast, hform.2, ← hfront, Bytes.ofNat_toNat,
        hfront, ← hback, Bytes.ofNat_toNat, List.take_append_drop]
    · split at h
      · exact absurd ‹_ ∧ _›.1 hlen
      · exact nomatch h

/-- **Any other byte string is a point** only if it is a marker in front of both coordinates. -/
theorem decompress_full_iff (hlen : data.length ≠ 33) :
    decompress data = .ok a ↔ isOnCurve (some a) = true ∧ data = fullBytes a := by
  rw [decompress_eq_ok_iff]
  constructor
  · rintro ⟨hread, hcurve⟩
    exact ⟨hcurve, eq_fullBytes_of_readPoint hlen hread⟩
  · rintro ⟨hcurve, rfl⟩
    obtain ⟨hx, hy, -⟩ := of_isOnCurve hcurve
    exact ⟨readPoint_fullBytes hx hy, hcurve⟩

theorem decompress_fullBytes (h : isOnCurve (some a) = true) : decompress (fullBytes a) = .ok a := by
  obtain ⟨hx, hy, -⟩ := of_isOnCurve h
  exact decompress_eq_ok_iff.mpr ⟨readPoint_fullBytes hx hy, h⟩

/-! ## What is refused -/

theorem kind_of_readPoint_eq_error {e : Error} (h : readPoint data = .error e) :
    e.kind = .parameter := by
  unfold readPoint at h
  split at h
  · obtain rfl := Except.error.inj h
    rfl
  · dsimp only at h
    split_ifs at h <;> obtain rfl := Except.error.inj h <;> rfl

theorem kind_of_decompress_eq_error {e : Error} (h : decompress data = .error e) :
    e.kind = .parameter := by
  rw [decompress] at h
  cases hread : readPoint data with
  | error e' =>
    rw [hread] at h
    obtain rfl := Except.error.inj h
    exact kind_of_readPoint_eq_error hread
  | ok b =>
    rw [hread, ok_bind] at h
    split at h
    · cases h
    · obtain rfl := Except.error.inj h
      rfl

/-- **Compressing and decompressing are inverse to each other.** Every point of the curve has 33 bytes
and 65 bytes that are read as it. 33 bytes are read as a point exactly if it lies on the curve with
their abscissa and parity, and are its compressed form; no other byte string is read but the 65 bytes
of a point on the curve, and what is not read is a wrong parameter. -/
theorem decompress_bijection :
    (∀ a : Affine, isOnCurve (some a) = true →
      ∃ d, compress (some a) = .ok d ∧ d.length = 33 ∧ decompress d = .ok a ∧
        decompress (4 :: (Bytes.ofNat 32 a.x.toNat ++ Bytes.ofNat 32 a.y.toNat)) = .ok a) ∧
    (∀ (marker : UInt8) (abscissa : Bytes), abscissa.length = 32 → ∀ a : Affine,
      (decompress (marker :: abscissa) = .ok a ↔
        (marker = 2 ∨ marker = 3) ∧ a.x = Bytes.toNat abscissa ∧ a.x < fieldPrime ∧ Reduced a.y ∧
          a.y % 2 = marker.toNat % 2 ∧ isOnCurve (some a) = true) ∧
      (decompress (marker :: abscissa) = .ok a → compress (some a) = .ok (marker :: abscissa))) ∧
    (∀ d : Bytes, d.length ≠ 33 → ∀ a : Affine, decompress d = .ok a ↔
      isOnCurve (some a) = true ∧
        d = 4 :: (Bytes.ofNat 32 a.x.toNat ++ Bytes.ofNat 32 a.y.toNat)) ∧
    ∀ d : Bytes, (∃ a, decompress d = .ok a) ∨ ∃ e, decompress d = .error e ∧ e.kind = .parameter := by
  refine ⟨?points, ?compressed, ?others, ?refused⟩
  case points =>
    intro a ha
    exact ⟨affineBytes a, compress_of_isOnCurve ha, length_affineBytes a, decompress_affineBytes ha,
      decompress_fullBytes ha⟩
  case compressed =>
    intro marker abscissa hlen a
    have hiff : decompress (marker :: abscissa) = .ok a ↔ _ := decompress_compressed_iff hlen
    constructor
    · rw [hiff]
      constructor
      · rintro ⟨hmarker, hx, hy, hcurve⟩
        obtain ⟨hrx, hry, -⟩ := of_isOnCurve hcurve
        exact ⟨hmarker, hx, hrx.2, hry, hy, hcurve⟩
      · rintro ⟨hmarker, hx, -, -, hy, hcurve⟩
        exact ⟨hmarker, hx, hy, hcurve⟩
    · intro h
      obtain ⟨hmarker, hx, hy, hcurve⟩ := hiff.mp h
      rw [compress_of_isOnCurve hcurve, affineBytes_eq hlen hmarker hx hy]
  case others =>
    intro d hlen a
    exact decompress_full_iff hlen
  case refused =>
    intro d
    cases h : decompress d with
    | ok a => exact .inl ⟨a, rfl⟩
    | error e => exact .inr ⟨e, rfl, kind_of_decompress_eq_error h⟩

/-- The base point, and its 65 bytes with the parity of the ordinate instead of the marker. -/
theorem decompress_bijection_generator :
    (isOnCurve (some generator) = true ∧ ∃ d, compress (some generator) = .ok d ∧ d.length = 33 ∧
      decompress d = .ok generator ∧
      decompress (4 :: (Bytes.ofNat 32 generator.x.toNat ++ Bytes.ofNat 32 generator.y.toNat)) =
        .ok generator) ∧
    ((Bytes.ofNat 32 generator.x.toNat).length = 32 ∧
      decompress (2 :: Bytes.ofNat 32 generator.x.toNat) = .ok generator ∧
      decompress (3 :: Bytes.ofNat 32 generator.x.toNat) ≠ .ok generator) ∧
    (2 :: (Bytes.ofNat 32 generator.x.toNat ++ Bytes.ofNat 32 generator.y.toNat)).length ≠ 33 ∧
    decompress (2 :: (Bytes.ofNat 32 generator.x.toNat ++ Bytes.ofNat 32 generator.y.toNat)) ≠
      .ok generator := by
  have hcurve := isOnCurve_generator
  have hlen : (Bytes.ofNat 32 generator.x.toNat).length = 32 := Bytes.length_ofNat _ _
  have hother : (2 :: (Bytes.ofNat 32 generator.x.toNat ++ Bytes.ofNat 32 generator.y.toNat)).length ≠
      33 := by decide
  obtain ⟨points, compressed, others, -⟩ := decompress_bijection
  refine ⟨⟨hcurve, points generator hcurve⟩, ⟨hlen, ?_, ?_⟩, hother, ?_⟩
  · apply (compressed 2 _ hlen generator).1.mpr
    decide
  · intro h
    exact absurd ((compressed 3 _ hlen generator).1.mp h).2.2.2.2.1 (by decide)
  · intro h
    exact absurd ((others _ hother generator).mp h).2 (by decide)

end Airgap.Curve
