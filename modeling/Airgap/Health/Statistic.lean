import Airgap.Decimal.Fixed
import Airgap.Entropy.Bits

/-!
# Statistical tests of a sample

Four tests after NIST SP 800-22 that catch a broken source: the proportion of ones, the frequency of
byte values, the number of runs, and the agreement of bits at small distances. The counts are exact;
the statistics are computed in any arithmetic with square roots (`Reckoning`), which is the doubles
when the program runs.

* `countOnes`, `countRuns`, `countMatches`, `frequencies`: the counts.
* `monobit`, `chiSquared`, `runs`, `autocorrelation`: what a test finds.
* `Finding.passes`, `Finding.statistic`, `Finding.threshold`, `Finding.detail`.
-/

namespace Airgap.Health

/-! ## Arithmetic -/

/-- Numbers to compute statistics in. -/
class Reckoning (R : Type) extends Add R, Sub R, Mul R, Div R where
  ofNat : Nat → R
  /-- The number `m / 10 ^ e`. -/
  ofDecimal (m e : Nat) : R
  abs : R → R
  sqrt : R → R
  less : R → R → Bool
  atLeast : R → R → Bool

instance : Reckoning Float where
  ofNat := Float.ofNat
  ofDecimal m e := OfScientific.ofScientific m true e
  abs := Float.abs
  sqrt := Float.sqrt
  less x y := x < y
  atLeast x y := x ≥ y

/-! ## Counts -/

/-- The ones among bits. -/
def countOnes (bits : List Bool) : Nat := bits.count true

/-- The positions at which bits agree with the bits `d` places later. -/
def countMatches (d : Nat) (bits : List Bool) : Nat :=
  (bits.zip (bits.drop d)).countP fun p => p.1 == p.2

/-- The maximal runs of equal bits. -/
def countRuns (bits : List Bool) : Nat :=
  1 + (bits.zip (bits.drop 1)).countP fun p => p.1 != p.2

/-- How often each of the 256 byte values occurs. -/
def frequencies (bytes : Bytes) : List Nat :=
  (List.range 256).map fun v => bytes.count (UInt8.ofNat v)

/-! ## Findings -/

/-- The tests. -/
inductive TestName where
  | monobit
  | chiSquared
  | runs
  | autocorrelation
  deriving DecidableEq, Repr

namespace TestName

/-- All tests, in order. -/
def all : List TestName := [.monobit, .chiSquared, .runs, .autocorrelation]

/-- The name of a test in reports. -/
def text : TestName → String
  | .monobit => "monobit"
  | .chiSquared => "chi_squared"
  | .runs => "runs"
  | .autocorrelation => "autocorrelation"

end TestName

/-- The fewest bits that say anything. -/
def minSampleBits : Nat := 100

/-- The distances at which bits are compared. -/
def offsets : Nat := 16

/-- The fewest bits that a test needs. -/
def TestName.needed : TestName → Nat
  | .monobit | .runs => minSampleBits
  | .chiSquared => 1280 * 8
  | .autocorrelation => minSampleBits + offsets

/-- What a test finds in a sample. -/
inductive Finding (R : Type) where
  /-- The sample is too short for the test. -/
  | skipped (needed available : Int)
  | monobit (ones bits : Nat) (ratio z : R)
  | chiSquared (statistic expected : R)
  /-- The ones ratio is so far off that the number of runs says nothing more. -/
  | runsUndefined (ratio : R)
  | runs (count : Nat) (z : R)
  /-- The worst distance. -/
  | autocorrelation (z : R) (offset : Nat)

/-- A statistic, which may be infinite. -/
inductive Score (R : Type) where
  | finite (r : R)
  | infinite

variable {R : Type} [Reckoning R]

/-- A number as it is. -/
@[inline] def num (n : Nat) : R := Reckoning.ofNat n

/-- The two-sided bound at a level of one per cent, 2.576. -/
def zThreshold : R := Reckoning.ofDecimal 2576 3

/-- The bound for 255 degrees of freedom at a level of one per cent, 310.5. -/
def chiSquaredThreshold : R := Reckoning.ofDecimal 3105 1

/-- The bound at a level of one per cent over all distances together, 3.42. -/
def autocorrelationThreshold : R := Reckoning.ofDecimal 342 2

/-- The distance between twice a count and a total. -/
def imbalance (count total : Nat) : Nat := (2 * (count : Int) - total).natAbs

/-- The proportion of ones. -/
def monobit (bits : List Bool) : Finding R :=
  let n := bits.length
  let ones := countOnes bits
  .monobit ones n (num ones / num n) (num (imbalance ones n) / Reckoning.sqrt (num n))

/-- The frequency of byte values. -/
def chiSquared (bytes : Bytes) : Finding R :=
  let expected : R := num bytes.length / num 256
  let term (o : Nat) : R :=
    let d := num o - expected
    d * d / expected
  .chiSquared ((frequencies bytes).foldl (fun sum o => sum + term o) (num 0)) expected

/-- The number of runs, given about as many ones as zeros. -/
def runs (bits : List Bool) : Finding R :=
  let n : R := num bits.length
  let ratio : R := num (countOnes bits) / n
  let half : R := Reckoning.ofDecimal 5 1
  if Reckoning.atLeast (Reckoning.abs (ratio - half)) (num 2 / Reckoning.sqrt n) then
    .runsUndefined ratio
  else
    let count := countRuns bits
    let expected := num 2 * n * ratio * (num 1 - ratio) + num 1
    let scale := num 2 * Reckoning.sqrt (num 2 * n) * ratio * (num 1 - ratio)
    .runs count (Reckoning.abs (num count - expected) / scale)

/-- The imbalance of matches at distance `d`, in standard deviations. -/
def matchScore (bits : List Bool) (d : Nat) : R :=
  let total := bits.length - d
  num (imbalance (countMatches d bits) total) / Reckoning.sqrt (num total)

/-- The greatest imbalance of matches over the distances, and the first distance that has it. -/
def autocorrelation (bits : List Bool) : Finding R :=
  let worst := (List.range' 1 offsets).foldl (fun (w : R × Nat) d =>
    let z := matchScore bits d
    if Reckoning.less w.1 z then (z, d) else w) (num 0, 0)
  .autocorrelation worst.1 worst.2

namespace Finding

/-- Whether the test says nothing against the sample. -/
def passes : Finding R → Bool
  | .skipped .. => true
  | .monobit _ _ _ z => Reckoning.less z zThreshold
  | .chiSquared s _ => Reckoning.less s chiSquaredThreshold
  | .runsUndefined _ => false
  | .runs _ z => Reckoning.less z zThreshold
  | .autocorrelation z _ => Reckoning.less z autocorrelationThreshold

/-- Whether the sample was too short. -/
def isSkipped : Finding R → Bool
  | .skipped .. => true
  | _ => false

/-- The number that is compared with the threshold; zero for a skipped test. -/
def statistic : Finding R → Score R
  | .skipped .. => .finite (num 0)
  | .monobit _ _ _ z | .runs _ z | .autocorrelation z _ => .finite z
  | .chiSquared s _ => .finite s
  | .runsUndefined _ => .infinite

/-- The number that the statistic has to stay under; zero for a skipped test. -/
def threshold : Finding R → R
  | .skipped .. => num 0
  | .monobit .. | .runs .. | .runsUndefined _ => zThreshold
  | .chiSquared .. => chiSquaredThreshold
  | .autocorrelation .. => autocorrelationThreshold

/-- The finding in words. -/
def detail : Finding Float → String
  | .skipped needed available => s!"skipped: needs {needed} bits, sample has {available}"
  | .monobit ones bits ratio z =>
    s!"{ones}/{bits} ones (" ++ Decimal.fixed 4 ratio ++ "), z=" ++ Decimal.fixed 4 z
  | .chiSquared s expected =>
    "chi2=" ++ Decimal.fixed 2 s ++ ", expected/bin=" ++ Decimal.fixed 2 expected
  | .runsUndefined ratio => "z=inf (ones ratio " ++ Decimal.fixed 4 ratio ++ ")"
  | .runs count z => s!"{count} runs, z=" ++ Decimal.fixed 4 z
  | .autocorrelation z offset => "worst z=" ++ Decimal.fixed 4 z ++ s!" at offset {offset}"

end Finding

end Airgap.Health
