import Airgap.Health.Statistic
import Airgap.Width

/-!
# Health reports

* `Findings.ofSample`: all tests of one sample, of its leading bits if so wanted.
* `Report.ofSamples`: the verdict over several samples by majority; a test fails if more than half
  of the samples fail it, and counts as skipped if all of them skip it.
* `drawSamples`: samples from a generator.
* `Report.summary`: the verdict as a text.
-/

namespace Airgap.Health

open Entropy (byteBits)

/-- What the tests find in one sample. -/
structure Findings (R : Type) where
  monobit : Finding R
  chiSquared : Finding R
  runs : Finding R
  autocorrelation : Finding R

/-- What one test finds. -/
def Findings.get {R : Type} (f : Findings R) : TestName → Finding R
  | .monobit => f.monobit
  | .chiSquared => f.chiSquared
  | .runs => f.runs
  | .autocorrelation => f.autocorrelation

variable {R : Type} [Reckoning R]

/-- What the tests find in bits, and in the whole bytes that they fill. -/
def Findings.ofBits (bits : List Bool) (whole : Bytes) : Findings R :=
  let run (name : TestName) (test : Finding R) : Finding R :=
    if bits.length < name.needed then .skipped name.needed bits.length else test
  ⟨run .monobit (Health.monobit bits), run .chiSquared (Health.chiSquared whole),
    run .runs (Health.runs bits), run .autocorrelation (Health.autocorrelation bits)⟩

/-- The bits of a sample that are tested: as many as asked for, or all. -/
def testedBits (data : Bytes) (count : Option Int) : Int := count.getD (8 * data.length)

/-- What the tests find in the leading bits of a sample. -/
def Findings.ofSample (data : Bytes) (count : Option Int) : Except Error (Findings R) :=
  let n := testedBits data count
  if 8 * (data.length : Int) < n then .error (.sampleTooSmall (8 * data.length) n)
  else if n < minSampleBits then .error (.sampleTooShort n)
  else .ok (.ofBits ((byteBits data).take n.toNat) (data.take (n.toNat / 8)))

/-- What a byte string takes beyond its bytes. -/
def sampleOverhead : Nat := 33

/-- Why a sample of `size` bytes cannot be drawn, if it cannot. -/
def checkSampleSize (size : Int) : Except Error Unit :=
  if !fitsWord size then .error .lengthWidth
  else if size < 0 then .error .negativeSize
  else if wordLimit ≤ size + sampleOverhead then .error .byteStringSize
  else if memoryLimit ≤ size then .error .outOfMemory
  else .ok ()

/-- `count` samples of `size` bytes from a generator, which is told the number of the sample. -/
def drawSamples (draw : Nat → Nat → Bytes) (size count : Int) : Except Error (List Bytes) :=
  if count ≤ 0 then .ok []
  else do
    checkSampleSize size
    return (List.range count.toNat).map fun i => draw i size.toNat

/-- The verdict over samples. -/
structure Report (R : Type) where
  samples : List (Findings R)
  /-- The size of the first sample, or the leading bits tested. -/
  sampleBits : Int

namespace Report

/-- The report on samples, at least one. -/
def ofSamples (samples : List Bytes) (count : Option Int) : Except Error (Report R) :=
  match samples with
  | [] => .error .noSamples
  | first :: _ => do
    return ⟨← samples.mapM fun s => Findings.ofSample s count, testedBits first count⟩

/-- How many samples fail a test. -/
def failures (r : Report R) (name : TestName) : Nat :=
  r.samples.countP fun s => !(s.get name).passes

/-- The tests that more than half of the samples fail. -/
def failed (r : Report R) : List TestName :=
  TestName.all.filter fun name => r.samples.length < 2 * r.failures name

/-- The tests that every sample is too short for. -/
def skipped (r : Report R) : List TestName :=
  TestName.all.filter fun name => r.samples.all fun s => (s.get name).isSkipped

/-- Whether no test failed. -/
def passes (r : Report R) : Bool := r.failed.isEmpty

/-- A text with spaces behind it, at least `width` characters. -/
def padded (width : Nat) (s : String) : String :=
  s ++ String.ofList (List.replicate (width - s.length) ' ')

/-- The line of a test. -/
def line (r : Report R) (name : TestName) : String :=
  let title := padded 20 name.text
  if name ∈ r.skipped then s!"  [-] {title} skipped (sample too short)"
  else if name ∈ r.failed then
    s!"  [!] {title} FAIL ({r.failures name}/{r.samples.length} samples)"
  else s!"  [+] {title} PASS"

/-- The verdict as lines. -/
def summaryLines (r : Report R) : List String :=
  ["Randomness verification: " ++ (if r.passes then "PASS" else "FAIL"),
    s!"Samples: {r.samples.length}, {r.sampleBits} bits each", ""] ++
  TestName.all.map r.line ++
  (if r.passes then []
    else ["", "WARNING: Weak randomness detected. Do NOT use for seed generation."])

/-- The verdict as a text. -/
def summary (r : Report R) : String := "\n".intercalate r.summaryLines

end Report

end Airgap.Health
