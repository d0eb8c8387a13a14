import Airgap.Health.Statistic
import Mathlib.Analysis.Real.Sqrt
import Mathlib.Tactic.NormNum

/-!
# Statistics in exact arithmetic

* `Exact`: the real numbers to compute statistics in.
* `div_sqrt_lt_iff`: a score is compared with a bound by squares.
* `passes_autocorrelation_iff`: what the matches at every distance have to be for the test to pass.
-/

namespace Airgap.Health

/-- A real number, to compute statistics in without rounding. -/
@[ext]
structure Exact where
  val : ℝ

namespace Exact

noncomputable instance : Reckoning Exact where
  add x y := ⟨x.val + y.val⟩
  sub x y := ⟨x.val - y.val⟩
  mul x y := ⟨x.val * y.val⟩
  div x y := ⟨x.val / y.val⟩
  ofNat n := ⟨n⟩
  ofDecimal m e := ⟨m / 10 ^ e⟩
  abs x := ⟨|x.val|⟩
  sqrt x := ⟨√x.val⟩
  less x y := decide (x.val < y.val)
  atLeast x y := decide (y.val ≤ x.val)

variable (x y : Exact)

@[simp] theorem val_add : (x + y).val = x.val + y.val := rfl

@[simp] theorem val_sub : (x - y).val = x.val - y.val := rfl

@[simp] theorem val_mul : (x * y).val = x.val * y.val := rfl

@[simp] theorem val_div : (x / y).val = x.val / y.val := rfl

@[simp] theorem val_num (n : ℕ) : (num n : Exact).val = n := rfl

@[simp] theorem val_ofDecimal (m e : ℕ) : (Reckoning.ofDecimal m e : Exact).val = m / 10 ^ e := rfl

@[simp] theorem val_abs : (Reckoning.abs x).val = |x.val| := rfl

@[simp] theorem val_sqrt : (Reckoning.sqrt x).val = √x.val := rfl

@[simp] theorem less_iff : Reckoning.less x y = true ↔ x.val < y.val := decide_eq_true_iff

@[simp] theorem atLeast_iff : Reckoning.atLeast x y = true ↔ y.val ≤ x.val := decide_eq_true_iff

end Exact

/-! ## Scores -/

/-- A score in standard deviations is compared with a bound by squares. -/
theorem div_sqrt_lt_iff {a b t : ℝ} (ha : 0 ≤ a) (hb : 0 < b) (ht : 0 ≤ t) :
    a / √b < t ↔ a ^ 2 < t ^ 2 * b := by
  have hroot : t * √b = √(t ^ 2 * b) := by
    rw [Real.sqrt_mul (sq_nonneg t), Real.sqrt_sq ht]
  rw [div_lt_iff₀ (Real.sqrt_pos.mpr hb), hroot, Real.lt_sqrt ha]

/-- The greatest of scores is below a bound if all of them are. -/
theorem less_foldl_iff (score : ℕ → Exact) (bound : Exact) (ds : List ℕ) (w : Exact × ℕ) :
    Reckoning.less (ds.foldl (fun w d =>
        if Reckoning.less w.1 (score d) then (score d, d) else w) w).1 bound = true ↔
      Reckoning.less w.1 bound = true ∧ ∀ d ∈ ds, Reckoning.less (score d) bound = true := by
  induction ds generalizing w with
  | nil => simp
  | cons d ds ih =>
    rw [List.foldl_cons, ih, List.forall_mem_cons, ← and_assoc]
    refine and_congr_left fun _ => ?_
    simp only [Exact.less_iff]
    split
    · rename_i h
      exact ⟨fun hd => ⟨h.trans hd, hd⟩, And.right⟩
    · rename_i h
      exact ⟨fun hw => ⟨hw, (not_lt.mp h).trans_lt hw⟩, And.left⟩

variable {bits : List Bool}

theorem less_matchScore_iff {d : ℕ} (hd : d < bits.length) :
    Reckoning.less (matchScore bits d : Exact) autocorrelationThreshold = true ↔
      (100 * imbalance (countMatches d bits) (bits.length - d)) ^ 2 <
        342 ^ 2 * (bits.length - d) := by
  have htotal : (0 : ℝ) < (bits.length - d : ℕ) := Nat.cast_pos.mpr (Nat.sub_pos_of_lt hd)
  have hbound : (0 : ℝ) ≤ (342 : ℕ) / 10 ^ 2 := by norm_num
  rw [Exact.less_iff]
  show (imbalance (countMatches d bits) (bits.length - d) : ℝ) / √(bits.length - d : ℕ) <
    (342 : ℕ) / 10 ^ 2 ↔ _
  rw [div_sqrt_lt_iff (Nat.cast_nonneg _) htotal hbound]
  generalize imbalance _ _ = m
  generalize bits.length - d = total
  rw [← Nat.cast_lt (α := ℝ)]
  push_cast
  constructor <;> intro h <;> linarith

/-- **When the test of matches passes**: at every distance, the squared imbalance of matches is small
enough. -/
theorem passes_autocorrelation_iff (hlong : offsets < bits.length) :
    (autocorrelation bits : Finding Exact).passes = true ↔ ∀ d, 1 ≤ d → d ≤ offsets →
      (100 * imbalance (countMatches d bits) (bits.length - d)) ^ 2 <
        342 ^ 2 * (bits.length - d) := by
  have hzero : Reckoning.less (num 0 : Exact) autocorrelationThreshold = true := by
    rw [Exact.less_iff, Exact.val_num, autocorrelationThreshold, Exact.val_ofDecimal]
    norm_num
  rw [autocorrelation, Finding.passes, less_foldl_iff, and_iff_right hzero]
  constructor
  · intro h d hpos hle
    have hmem : d ∈ List.range' 1 offsets := List.mem_range'_1.mpr ⟨hpos, by omega⟩
    exact (less_matchScore_iff (by omega)).mp (h d hmem)
  · intro h d hmem
    obtain ⟨hpos, hle⟩ := List.mem_range'_1.mp hmem
    exact (less_matchScore_iff (by omega)).mpr (h d hpos (by omega))

end Airgap.Health
