import Airgap.Digest.Ripemd160
import Airgap.Proofs.Digest.Published

/-!
# The tables of the compression functions

* `firstPrimes_eq`: the first eighty primes, found by dividing by the primes below 21.
* `sha256_constants`, `sha512_constants`: the round constants are the bits of the cube roots.
* `PublishedRipemd.Tabulates`: four tables of one row a round hold what the steps of a line take;
  `tabulates_left`, `tabulates_right`.
-/

namespace Airgap.Digest

/-! ## Lists -/

theorem getElem?_map_range {α : Type} {g : ℕ → α} {n i : ℕ} (hi : i < n) :
    ((List.range n).map g)[i]? = some (g i) := by
  rw [List.getElem?_map, List.getElem?_range hi]
  rfl

/-- What a list of `n` values of `g` holds at a place. -/
theorem getD_map_range {α : Type} {g : ℕ → α} {n i : ℕ} (hi : i < n) (d : α) :
    ((List.range n).map g).getD i d = g i := by
  rw [List.getD_eq_getElem?_getD, getElem?_map_range hi]
  rfl

/-! ## The first primes -/

/-- Whether no prime below 21 divides `n` properly. -/
def sieved (n : ℕ) : Bool :=
  2 ≤ n && [2, 3, 5, 7, 11, 13, 17, 19].all fun q => n % q != 0 || n == q

theorem prime_iff_sieved {n : ℕ} (hn : n < 441) : n.Prime ↔ sieved n = true := by
  rw [sieved, Bool.and_eq_true, decide_eq_true_eq, List.all_eq_true]
  constructor
  · intro hp
    refine ⟨hp.two_le, fun q hq => ?_⟩
    have hq1 : q ≠ 1 := by
      rintro rfl
      exact absurd hq (by decide)
    rw [Bool.or_eq_true, bne_iff_ne, beq_iff_eq, or_iff_not_imp_left, not_not]
    intro hdvd
    exact ((Nat.dvd_prime hp).mp (Nat.dvd_of_mod_eq_zero hdvd)).resolve_left hq1 |>.symm
  · rintro ⟨h2, hall⟩
    by_contra hnot
    -- the least factor of a composite number is among the divisors that were tried
    have hprime := Nat.minFac_prime (show n ≠ 1 by omega)
    have hsq : n.minFac ^ 2 ≤ n := Nat.minFac_sq_le_self (by omega) hnot
    have hlt : n.minFac < 21 := by
      by_contra hge
      have := Nat.pow_le_pow_left (not_lt.mp hge) 2
      omega
    have hne : n ≠ n.minFac := fun h => hnot (h ▸ hprime)
    have htried : ∀ q < 21, q.Prime → q ∈ [2, 3, 5, 7, 11, 13, 17, 19] := by decide
    have hq := hall _ (htried _ hlt hprime)
    rw [Bool.or_eq_true, bne_iff_ne, beq_iff_eq] at hq
    exact hq.elim (fun h => h (Nat.mod_eq_zero_of_dvd n.minFac_dvd)) hne

theorem filter_range_eq (p : ℕ → Prop) [DecidablePred p] (n : ℕ) :
    (List.range n).filter p = (List.range (Nat.count p n)).map (Nat.nth p) := by
  induction n with
  | zero => simp
  | succ n ih =>
    rw [List.range_succ, List.filter_append, ih, Nat.count_succ]
    by_cases hp : p n
    · simp [hp, List.range_succ, Nat.nth_count]
    · simp [hp]

/-- The primes below 410. -/
def firstPrimes : List ℕ := (List.range 410).filter sieved

theorem length_firstPrimes : firstPrimes.length = 80 := by decide +kernel

theorem firstPrimes_eq : firstPrimes = (List.range 80).map (Nat.nth Nat.Prime) := by
  have hfilter : firstPrimes = (List.range 410).filter Nat.Prime := by
    refine List.filter_congr fun n hn => ?_
    rw [List.mem_range] at hn
    rw [Bool.eq_iff_iff, decide_eq_true_eq, prime_iff_sieved (by omega)]
  have hlength := congrArg List.length hfilter
  rw [filter_range_eq, length_firstPrimes, List.length_map, List.length_range] at hlength
  rw [hfilter, filter_range_eq, ← hlength]

/-! ## SHA-256 and SHA-512 -/

theorem sha256_constants :
    Sha256.constants.map UInt32.toBitVec = (List.range 64).map (Fips180.constant 32) := by
  have hroots : Sha256.constants.map UInt32.toBitVec =
      (firstPrimes.take 64).map fun p => BitVec.ofNat 32 (scaledRoot 32 3 p) := by
    decide +kernel
  rw [hroots, firstPrimes_eq, ← List.map_take, List.take_range, List.map_map]
  rfl

theorem sha512_constants :
    Sha512.constants.map UInt64.toBitVec = (List.range 80).map (Fips180.constant 64) := by
  have hroots : Sha512.constants.map UInt64.toBitVec =
      firstPrimes.map fun p => BitVec.ofNat 64 (scaledRoot 64 3 p) := by
    decide +kernel
  rw [hroots, firstPrimes_eq, List.map_map]
  rfl

/-! ## RIPEMD-160 -/

namespace PublishedRipemd

theorem leftConstants_eq :
    Ripemd160.leftConstants.map UInt32.toBitVec = (List.range 5).map leftConstant := by
  have hroots : Ripemd160.leftConstants.map UInt32.toBitVec =
      0 :: (firstPrimes.take 4).map fun p => BitVec.ofNat 32 (scaledRoot 30 2 p) := by
    decide +kernel
  rw [hroots, firstPrimes_eq, ← List.map_take, List.take_range, List.map_map]
  rfl

theorem rightConstants_eq :
    Ripemd160.rightConstants.map UInt32.toBitVec = (List.range 5).map rightConstant := by
  have hroots : Ripemd160.rightConstants.map UInt32.toBitVec =
      (firstPrimes.take 4).map (fun p => BitVec.ofNat 32 (scaledRoot 30 3 p)) ++ [0] := by
    decide +kernel
  rw [hroots, firstPrimes_eq, ← List.map_take, List.take_range, List.map_map]
  rfl

/-- Tables of one row a round hold what the steps of a line take. -/
structure Tabulates (l : Line) (constants : List UInt32) (words : List (List ℕ))
    (rotations : List (List UInt32)) : Prop where
  constant_eq : ∀ j < 80, (constants.map UInt32.toBitVec)[j / 16]? = some (l.constant j)
  words_eq : words = (List.range 5).map fun r => (List.range 16).map fun i => l.word (16 * r + i)
  rotations_eq : rotations.map (·.map UInt32.toNat) =
    (List.range 5).map fun r => (List.range 16).map fun i => l.rotation (16 * r + i)
  word_lt : ∀ j < 80, l.word j < 16
  rotation_pos : ∀ j < 80, 0 < l.rotation j
  rotation_lt : ∀ j < 80, l.rotation j < 32

/-- The rows of a table one after the other. -/
theorem flatten_rows {α : Type} (g : ℕ → α) :
    ((List.range 5).map fun r => (List.range 16).map fun i => g (16 * r + i)).flatten =
      (List.range 80).map g := rfl

theorem tabulates_left :
    Tabulates left Ripemd160.leftConstants Ripemd160.leftWords Ripemd160.leftRotations where
  constant_eq _ hj := by
    rw [leftConstants_eq]
    exact getElem?_map_range (Nat.div_lt_of_lt_mul hj)
  words_eq := by decide +kernel
  rotations_eq := by decide +kernel
  word_lt := by decide +kernel
  rotation_pos := by decide +kernel
  rotation_lt := by decide +kernel

theorem tabulates_right :
    Tabulates right Ripemd160.rightConstants Ripemd160.rightWords Ripemd160.rightRotations where
  constant_eq _ hj := by
    rw [rightConstants_eq]
    exact getElem?_map_range (Nat.div_lt_of_lt_mul hj)
  words_eq := by decide +kernel
  rotations_eq := by decide +kernel
  word_lt := by decide +kernel
  rotation_pos := by decide +kernel
  rotation_lt := by decide +kernel

end PublishedRipemd

end Airgap.Digest
