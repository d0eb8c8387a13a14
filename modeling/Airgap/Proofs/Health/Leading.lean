import Airgap.Proofs.Entropy.Bits
import Airgap.Proofs.Health.Sample

/-!
# Only the leading bits are tested

* `ofSample_congr`: samples of any lengths that agree on the bits asked for are tested alike.
* `chiSquared_congr`: the frequency of byte values depends on the whole bytes among them alone.
-/

namespace Airgap.Health

open Entropy (byteBits byteBits_inj byteBits_take)

/-- Bytes that agree on some bits agree on the bytes that these fill. -/
theorem take_eq_of_byteBits {as bs : Bytes} {n : ℕ}
    (h : (byteBits as).take n = (byteBits bs).take n) : as.take (n / 8) = bs.take (n / 8) := by
  have hfilled (cs : Bytes) : byteBits (cs.take (n / 8)) = ((byteBits cs).take n).take (8 * (n / 8)) := by
    rw [byteBits_take, List.take_take, Nat.min_eq_left (Nat.mul_div_le n 8)]
  apply byteBits_inj
  rw [hfilled, hfilled, h]

variable {R : Type} [Reckoning R] {data data' : Bytes} {n : ℤ}
  (h : n ≤ 8 * data.length) (h' : n ≤ 8 * data'.length)

include h in
/-- Too few bits are refused, whatever they are. -/
theorem ofSample_tooShort (hn : n < minSampleBits) :
    Findings.ofSample data (some n) = (.error (.sampleTooShort n) : Except Error (Findings R)) := by
  rw [Findings.ofSample, testedBits, Option.getD_some, if_neg (not_lt.mpr h), if_pos hn]

include h h'

/-- **Samples that agree on the bits asked for are tested alike.** -/
theorem ofSample_congr (hbits : (byteBits data).take n.toNat = (byteBits data').take n.toNat) :
    (Findings.ofSample data (some n) : Except Error (Findings R)) =
      Findings.ofSample data' (some n) := by
  by_cases hn : n < minSampleBits
  · rw [ofSample_tooShort h hn, ofSample_tooShort h' hn]
  · have htest : Testable (some n) data := ⟨not_lt.mp hn, h⟩
    have htest' : Testable (some n) data' := ⟨not_lt.mp hn, h'⟩
    have hleading : leading (some n) data = leading (some n) data' := hbits
    have hwhole : whole (some n) data = whole (some n) data' := take_eq_of_byteBits hbits
    rw [htest.ofSample_eq, htest'.ofSample_eq, hleading, hwhole]

theorem Report.ofSamples_congr (hbits : (byteBits data).take n.toNat = (byteBits data').take n.toNat) :
    (Report.ofSamples [data] (some n) : Except Error (Report R)) = Report.ofSamples [data'] (some n) := by
  simp only [ofSamples, List.mapM_cons, List.mapM_nil, ofSample_congr h h' hbits, testedBits,
    Option.getD_some]

/-- **The frequency of byte values** depends on the whole bytes among the bits asked for alone. -/
theorem chiSquared_congr (hbytes : data.take (n.toNat / 8) = data'.take (n.toNat / 8)) :
    (Findings.ofSample data (some n)).map (fun f : Findings R => f.chiSquared) =
      (Findings.ofSample data' (some n)).map fun f => f.chiSquared := by
  by_cases hn : n < minSampleBits
  · rw [ofSample_tooShort h hn, ofSample_tooShort h' hn]
  · have htest : Testable (some n) data := ⟨not_lt.mp hn, h⟩
    have htest' : Testable (some n) data' := ⟨not_lt.mp hn, h'⟩
    have hlength : (leading (some n) data).length = (leading (some n) data').length :=
      Int.ofNat_inj.mp (htest.length_leading.trans htest'.length_leading.symm)
    have hwhole : whole (some n) data = whole (some n) data' := hbytes
    rw [htest.ofSample_eq, htest'.ofSample_eq]
    simp only [Except.map, Findings.ofBits, hlength, hwhole]

end Airgap.Health
