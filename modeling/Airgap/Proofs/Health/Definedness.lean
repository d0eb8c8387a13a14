import Airgap.Proofs.Health.Exact
import Airgap.Proofs.Health.Sample
import Mathlib.Tactic.Linarith

/-!
# No division by zero

The tests are written a second time over numbers that can only be divided, and only have square roots,
through hooks. With hooks that just compute they are the tests as they stand, in every arithmetic; with
hooks that stop at an operand that is not positive they never stop, in exact arithmetic.

* `Undivided`: numbers without division and square roots.
* `Hooks`, `Hooks.findings`, `Hooks.ofSample`: the tests of such numbers, with hooks.
* `Hooks.Answers`: hooks that compute where they are allowed to; `findings_eq` is what the tests need.
* `Hooks.plain`, `Hooks.guarded`: hooks that are allowed everything, and positive operands alone.
* `ratio_pos`: the guard of the test of runs leaves a ratio between zero and one.
* `tests_divide_by_positive`: a sample is refused, or tested with positive divisors and radicands only.
-/

namespace Airgap.Health

open Entropy (byteBits)

/-- Numbers that are added, multiplied and compared; division and square roots are not among what can be
done with them. -/
class Undivided (R : Type) extends Add R, Sub R, Mul R where
  ofNat : ℕ → R
  ofDecimal (m e : ℕ) : R
  abs : R → R
  less : R → R → Bool
  atLeast : R → R → Bool

instance {R : Type} [Reckoning R] : Undivided R where
  ofNat := Reckoning.ofNat
  ofDecimal := Reckoning.ofDecimal
  abs := Reckoning.abs
  less := Reckoning.less
  atLeast := Reckoning.atLeast

section Undivided

variable {R : Type} [Reckoning R] (x y : R)

@[simp] theorem undivided_ofNat (n : ℕ) : (Undivided.ofNat n : R) = num n := rfl

@[simp] theorem undivided_ofDecimal (m e : ℕ) :
    (Undivided.ofDecimal m e : R) = Reckoning.ofDecimal m e := rfl

@[simp] theorem undivided_abs : Undivided.abs x = Reckoning.abs x := rfl

@[simp] theorem undivided_atLeast : Undivided.atLeast x y = Reckoning.atLeast x y := rfl

end Undivided

/-- How numbers are divided, and square roots taken, in steps of a monad. -/
structure Hooks (R : Type) (M : Type → Type) where
  div : R → R → M R
  sqrt : R → M R

namespace Hooks

section Tests

variable {R : Type} [Undivided R] {M : Type → Type} [Monad M] (k : Hooks R M)

open Undivided (ofNat)

/-! ## The tests with hooks -/

/-- The proportion of ones. -/
def monobit (bits : List Bool) : M (Finding R) := do
  let n := bits.length
  let ones := countOnes bits
  let root ← k.sqrt (ofNat n)
  let z ← k.div (ofNat (imbalance ones n)) root
  let ratio ← k.div (ofNat ones) (ofNat n)
  return .monobit ones n ratio z

/-- The frequency of byte values. -/
def chiSquared (bytes : Bytes) : M (Finding R) := do
  let expected ← k.div (ofNat bytes.length) (ofNat 256)
  let add (sum : R) (o : ℕ) : M R := do
    let d := ofNat o - expected
    return sum + (← k.div (d * d) expected)
  return .chiSquared (← (frequencies bytes).foldlM add (ofNat 0)) expected

/-- The number of runs, given about as many ones as zeros. -/
def runs (bits : List Bool) : M (Finding R) := do
  let n : R := ofNat bits.length
  let ratio ← k.div (ofNat (countOnes bits)) n
  let root ← k.sqrt n
  let limit ← k.div (ofNat 2) root
  if Undivided.atLeast (Undivided.abs (ratio - Undivided.ofDecimal 5 1)) limit then
    return .runsUndefined ratio
  else
    let count := countRuns bits
    let expected := ofNat 2 * n * ratio * (ofNat 1 - ratio) + ofNat 1
    let root ← k.sqrt (ofNat 2 * n)
    let z ← k.div (Undivided.abs (ofNat count - expected)) (ofNat 2 * root * ratio * (ofNat 1 - ratio))
    return .runs count z

/-- The imbalance of matches at distance `d`, in standard deviations. -/
def matchScore (bits : List Bool) (d : ℕ) : M R := do
  let total := bits.length - d
  let root ← k.sqrt (ofNat total)
  k.div (ofNat (imbalance (countMatches d bits) total)) root

/-- The greatest imbalance of matches over the distances, and the first distance that has it. -/
def autocorrelation (bits : List Bool) : M (Finding R) := do
  let compare (w : R × ℕ) (d : ℕ) : M (R × ℕ) := do
    let z ← k.matchScore bits d
    return if Undivided.less w.1 z then (z, d) else w
  let worst ← (List.range' 1 offsets).foldlM compare (ofNat 0, 0)
  return .autocorrelation worst.1 worst.2

/-- What a test finds in bits that are enough for it, and in the whole bytes that they fill. -/
def found (bits : List Bool) (whole : Bytes) : TestName → M (Finding R)
  | .monobit => k.monobit bits
  | .chiSquared => k.chiSquared whole
  | .runs => k.runs bits
  | .autocorrelation => k.autocorrelation bits

/-- All tests that the bits are enough for. -/
def findings (bits : List Bool) (whole : Bytes) : M (Findings R) := do
  let run (name : TestName) : M (Finding R) :=
    if bits.length < name.needed then return .skipped name.needed bits.length
    else k.found bits whole name
  return ⟨← run .monobit, ← run .chiSquared, ← run .runs, ← run .autocorrelation⟩

/-- The tests of the leading bits of a sample. -/
def ofSample (data : Bytes) (count : Option ℤ) : Except Error (M (Findings R)) :=
  let n := testedBits data count
  if 8 * (data.length : ℤ) < n then .error (.sampleTooSmall (8 * data.length) n)
  else if n < minSampleBits then .error (.sampleTooShort n)
  else .ok (k.findings ((byteBits data).take n.toNat) (data.take (n.toNat / 8)))

end Tests

/-! ## Hooks that compute -/

variable {R : Type} [Reckoning R] {M : Type → Type} [Monad M] (k : Hooks R M)

/-- The hooks compute where the divisor, or the radicand, is allowed. -/
structure Answers (allowed : R → Prop) : Prop where
  div {x y : R} (h : allowed y) : k.div x y = pure (x / y)
  sqrt {x : R} (h : allowed x) : k.sqrt x = pure (Reckoning.sqrt x)

variable [LawfulMonad M]

/-- A loop whose steps just compute. -/
theorem foldlM_eq_pure {α β : Type} {f : β → α → M β} {g : β → α → β} {as : List α}
    (h : ∀ b, ∀ a ∈ as, f b a = pure (g b a)) (b : β) : as.foldlM f b = pure (as.foldl g b) := by
  induction as generalizing b with
  | nil => rfl
  | cons a as ih =>
    rw [List.foldlM_cons, h b a List.mem_cons_self, pure_bind, List.foldl_cons]
    exact ih (fun b a ha => h b a (List.mem_cons_of_mem _ ha)) (g b a)

namespace Answers

variable {k} {allowed : R → Prop} (hk : k.Answers allowed) {bits : List Bool} {bytes : Bytes}

include hk

theorem monobit_eq (hn : allowed (num bits.length))
    (hroot : allowed (Reckoning.sqrt (num bits.length))) :
    k.monobit bits = pure (Health.monobit bits) := by
  simp only [monobit, undivided_ofNat, hk.sqrt hn, hk.div hroot, hk.div hn, pure_bind]
  rfl

theorem chiSquared_eq (hbins : allowed (num 256)) (hexpected : allowed (num bytes.length / num 256)) :
    k.chiSquared bytes = pure (Health.chiSquared bytes) := by
  simp only [chiSquared, undivided_ofNat, hk.div hbins, hk.div hexpected, pure_bind]
  rw [foldlM_eq_pure fun _ _ _ => rfl, pure_bind]
  rfl

theorem runs_eq {ratio : R} (hratio : ratio = num (countOnes bits) / num bits.length)
    (hn : allowed (num bits.length)) (hroot : allowed (Reckoning.sqrt (num bits.length)))
    (hrest : Reckoning.atLeast (Reckoning.abs (ratio - Reckoning.ofDecimal 5 1))
        (num 2 / Reckoning.sqrt (num bits.length)) = false →
      allowed (num 2 * num bits.length) ∧
      allowed (num 2 * Reckoning.sqrt (num 2 * num bits.length) * ratio * (num 1 - ratio))) :
    k.runs bits = pure (Health.runs bits) := by
  subst hratio
  simp only [runs, Health.runs, undivided_ofNat, undivided_ofDecimal, undivided_abs,
    undivided_atLeast, hk.sqrt hn, hk.div hn, hk.div hroot, pure_bind]
  split
  · rfl
  · rename_i hguard
    obtain ⟨hdouble, hscale⟩ := hrest (Bool.eq_false_iff.mpr hguard)
    simp only [hk.sqrt hdouble, hk.div hscale, pure_bind]

theorem autocorrelation_eq (htotal : ∀ d, 1 ≤ d → d ≤ offsets →
      allowed (num (bits.length - d)) ∧ allowed (Reckoning.sqrt (num (bits.length - d)))) :
    k.autocorrelation bits = pure (Health.autocorrelation bits) := by
  rw [autocorrelation, foldlM_eq_pure (g := fun w d => if Reckoning.less w.1 (Health.matchScore bits d) then
    (Health.matchScore bits d, d) else w), pure_bind]
  · rfl
  · intro w d hd
    obtain ⟨hpos, hle⟩ := List.mem_range'_1.mp hd
    obtain ⟨hcount, hroot⟩ := htotal d hpos (by omega)
    simp only [matchScore, undivided_ofNat, hk.sqrt hcount, hk.div hroot, pure_bind]
    rfl

end Answers

/-- All tests just compute if each one does that the bits are enough for. -/
theorem findings_eq {bits : List Bool} {whole : Bytes} (h : ∀ name : TestName,
      name.needed ≤ bits.length → k.found bits whole name = pure (Health.found bits whole name)) :
    k.findings bits whole = pure (.ofBits bits whole) := by
  have hrun (name : TestName) :
      (if bits.length < name.needed then return .skipped name.needed bits.length
        else k.found bits whole name) = (pure ((Findings.ofBits bits whole).get name) : M _) := by
    rw [Findings.get_ofBits]
    split
    · rfl
    · rename_i henough
      exact h name (Nat.not_lt.mp henough)
  simp only [findings, hrun, pure_bind]
  rfl

omit [LawfulMonad M] in
theorem ofSample_eq {data : Bytes} {count : Option ℤ} (h : Testable count data →
      k.findings (leading count data) (whole count data) =
        pure (.ofBits (leading count data) (whole count data))) :
    k.ofSample data count = (Findings.ofSample data count).map pure := by
  rw [ofSample, Findings.ofSample]
  split
  · rfl
  · rename_i hwithin
    split
    · rfl
    · rename_i henough
      exact congrArg Except.ok (h ⟨not_lt.mp henough, not_lt.mp hwithin⟩)

/-- Hooks that compute whatever the operands are. -/
def plain : Hooks R M := ⟨fun x y => pure (x / y), fun x => pure (Reckoning.sqrt x)⟩

/-- **With plain hooks the tests are the tests as they stand**, in every arithmetic. -/
theorem plain_ofSample (data : Bytes) (count : Option ℤ) :
    (plain : Hooks R M).ofSample data count = (Findings.ofSample data count).map pure := by
  have hk : (plain : Hooks R M).Answers fun _ => True := ⟨fun _ => rfl, fun _ => rfl⟩
  refine ofSample_eq plain fun _ => findings_eq plain fun name _ => ?_
  cases name with
  | monobit => exact hk.monobit_eq trivial trivial
  | chiSquared => exact hk.chiSquared_eq trivial trivial
  | runs => exact hk.runs_eq rfl trivial trivial fun _ => ⟨trivial, trivial⟩
  | autocorrelation => exact hk.autocorrelation_eq fun _ _ _ => ⟨trivial, trivial⟩

end Hooks

/-! ## Positive operands -/

/-- When a number of runs is compared. -/
theorem guard_eq_false_iff (bits : List Bool) :
    Reckoning.atLeast (Reckoning.abs ((num (countOnes bits) / num bits.length : Exact) -
        Reckoning.ofDecimal 5 1)) (num 2 / Reckoning.sqrt (num bits.length)) = false ↔
      |(countOnes bits / bits.length : ℝ) - 1 / 2| < 2 / √bits.length := by
  have hhalf : (5 : ℝ) / 10 ^ 1 = 1 / 2 := by norm_num
  simp only [← Bool.not_eq_true, Exact.atLeast_iff, not_le, Exact.val_abs, Exact.val_sub, Exact.val_div,
    Exact.val_num, Exact.val_ofDecimal, Exact.val_sqrt, Nat.cast_ofNat, hhalf]

theorem guard_of_runs {bits : List Bool} {count : ℕ} {z : Exact} (h : runs bits = .runs count z) :
    |(countOnes bits / bits.length : ℝ) - 1 / 2| < 2 / √bits.length := by
  rw [runs] at h
  split at h
  · cases h
  · rename_i hguard
    exact (guard_eq_false_iff bits).mp (Bool.eq_false_iff.mpr hguard)

/-- The guard of the test of runs leaves a ratio of ones strictly between zero and one. -/
theorem ratio_pos {n : ℕ} (hn : minSampleBits ≤ n) {ratio : ℝ} (h : |ratio - 1 / 2| < 2 / √n) :
    0 < ratio ∧ 0 < 1 - ratio := by
  have hroot : (10 : ℝ) ≤ √n := by
    rw [Real.le_sqrt (by norm_num) (Nat.cast_nonneg n)]
    have hcast : ((100 : ℕ) : ℝ) ≤ n := Nat.cast_le.mpr hn
    norm_num at hcast ⊢
    exact hcast
  have hlimit : 2 / √n ≤ 1 / 5 := by
    rw [div_le_div_iff₀ (by linarith) (by norm_num)]
    linarith
  obtain ⟨hlow, hhigh⟩ := abs_lt.mp (h.trans_le hlimit)
  constructor <;> linarith

namespace Hooks

/-- Hooks that stop at a divisor, or a radicand, that is not positive. -/
noncomputable def guarded : Hooks Exact Option where
  div x y := if 0 < y.val then some (x / y) else none
  sqrt x := if 0 < x.val then some (Reckoning.sqrt x) else none

theorem guarded_answers : guarded.Answers fun x => 0 < x.val := ⟨fun h => if_pos h, fun h => if_pos h⟩

variable {bits : List Bool}

theorem val_num_pos {n : ℕ} (hn : 0 < n) : 0 < (num n : Exact).val := Nat.cast_pos.mpr hn

theorem val_root_pos {n : ℕ} (hn : 0 < n) : 0 < (Reckoning.sqrt (num n : Exact)).val :=
  Real.sqrt_pos.mpr (val_num_pos hn)

theorem guarded_runs (hlong : minSampleBits ≤ bits.length) :
    guarded.runs bits = some (Health.runs bits) := by
  have hn : 0 < bits.length := lt_of_lt_of_le (by decide) hlong
  refine guarded_answers.runs_eq rfl (val_num_pos hn) (val_root_pos hn) fun hguard => ?_
  obtain ⟨hratio, hrest⟩ := ratio_pos hlong ((guard_eq_false_iff bits).mp hguard)
  have hcount : (0 : ℝ) < bits.length := Nat.cast_pos.mpr hn
  simp only [Exact.val_mul, Exact.val_sub, Exact.val_div, Exact.val_num, Exact.val_sqrt,
    Nat.cast_ofNat, Nat.cast_one]
  constructor <;> positivity

theorem guarded_found {whole : Bytes} (hwhole : whole.length = bits.length / 8) (name : TestName)
    (henough : name.needed ≤ bits.length) :
    guarded.found bits whole name = some (Health.found bits whole name) := by
  cases name with
  | monobit =>
    have hn : 0 < bits.length := lt_of_lt_of_le (by decide) henough
    exact guarded_answers.monobit_eq (val_num_pos hn) (val_root_pos hn)
  | chiSquared =>
    have hneeded : TestName.chiSquared.needed = 10240 := rfl
    have hbytes : 0 < whole.length := by omega
    exact guarded_answers.chiSquared_eq (val_num_pos (by decide))
      (div_pos (val_num_pos hbytes) (val_num_pos (by decide)))
  | runs => exact guarded_runs henough
  | autocorrelation =>
    have hneeded : TestName.autocorrelation.needed = 116 := rfl
    have hoffsets : offsets = 16 := rfl
    refine guarded_answers.autocorrelation_eq fun d _ hd => ?_
    have htotal : 0 < bits.length - d := by omega
    exact ⟨val_num_pos htotal, val_root_pos htotal⟩

theorem guarded_ofSample (data : Bytes) (count : Option ℤ) :
    guarded.ofSample data count = (Findings.ofSample data count).map some := by
  refine ofSample_eq guarded fun htest => findings_eq guarded (guarded_found ?_)
  have hlength := htest.length_leading
  have hwithin := htest.within
  rw [whole, List.length_take]
  omega

end Hooks

/-- **No division by zero.** The tests with hooks, over numbers that are divided and have roots through
these alone, are with plain ones the tests as they stand, in every arithmetic. In exact arithmetic a
sample is refused for a parameter, or hooks that stop at a divisor or radicand that is not positive do not
stop, and find the same. When a number of runs is compared, the ratio of ones is strictly between zero
and one. -/
theorem tests_divide_by_positive (data : Bytes) (count : Option ℤ) :
    (∀ (R : Type) [Reckoning R] (M : Type → Type) [Monad M] [LawfulMonad M],
      (Hooks.plain : Hooks R M).ofSample data count = (Findings.ofSample data count).map pure) ∧
    ((∃ e, e.kind = .parameter ∧
        Findings.ofSample data count = (.error e : Except Error (Findings Exact)) ∧
        Hooks.guarded.ofSample data count = .error e) ∨
      ∃ f : Findings Exact, Findings.ofSample data count = .ok f ∧
        Hooks.guarded.ofSample data count = .ok (some f) ∧
        ∀ runs z, f.runs = .runs runs z →
          let ratio : ℝ := countOnes (leading count data) / (leading count data).length
          0 < ratio * (1 - ratio)) := by
  refine ⟨fun R _ M _ _ => Hooks.plain_ofSample data count, ?_⟩
  rw [Hooks.guarded_ofSample]
  rcases ofSample_cases (R := Exact) count data with htest | ⟨e, hkind, herror⟩
  · refine .inr ⟨_, htest.ofSample_eq, by rw [htest.ofSample_eq]; rfl, ?_⟩
    intro runs z hruns ratio
    have hlong : TestName.runs.needed ≤ (leading count data).length := by
      show minSampleBits ≤ (leading count data).length
      have hlength := htest.length_leading
      have henough := htest.enough
      omega
    have hfound := Findings.get_ofBits (R := Exact) (leading count data) (whole count data) .runs
    rw [if_neg (Nat.not_lt.mpr hlong)] at hfound
    obtain ⟨hratio, hrest⟩ := ratio_pos hlong (guard_of_runs (hfound.symm.trans hruns))
    exact mul_pos hratio hrest
  · exact .inl ⟨e, hkind, herror, by rw [herror]; rfl⟩

end Airgap.Health
