import Airgap.Curve.Field
import Mathlib.Data.List.Prime
import Mathlib.NumberTheory.LucasPrimality

/-!
# The two primes of secp256k1

`fieldPrime` and `order` are prime. A `Witness` names a primitive root of a number and the primes of
its predecessor (with repetitions); a list of them is checked from the small numbers to the large,
so that the primes of every predecessor are already known. Powers are by squaring, and the check is
evaluated by the kernel.

* `prime_of_passes`: Lucas's test for one witness.
* `prime_fieldPrime`, `prime_order`.
-/

namespace Airgap.Curve

/-! ## Lucas's test -/

/-- The power `a ^ e` modulo `m` of an exponent of at most `n` bits. -/
def powerMod (m a : ℕ) : ℕ → ℕ → ℕ
  | 0, _ => 1
  | n + 1, e =>
    let half := powerMod m a n (e / 2)
    let square := half * half % m
    if e % 2 = 0 then square else square * a % m

theorem powerMod_modEq (m a : ℕ) {n e : ℕ} (h : e < 2 ^ n) : powerMod m a n e ≡ a ^ e [MOD m] := by
  induction n generalizing e with
  | zero =>
    rw [show e = 0 by omega]
    rfl
  | succ n ih =>
    have half : powerMod m a n (e / 2) ≡ a ^ (e / 2) [MOD m] := ih (by omega)
    have square : powerMod m a n (e / 2) * powerMod m a n (e / 2) % m ≡ a ^ (2 * (e / 2)) [MOD m] := by
      rw [two_mul, pow_add]
      exact (Nat.mod_modEq _ _).trans (half.mul half)
    rw [powerMod]
    split
    · rwa [show 2 * (e / 2) = e by omega] at square
    · refine (Nat.mod_modEq _ _).trans ?_
      rw [show a ^ e = a ^ (2 * (e / 2)) * a by rw [← pow_succ]; congr 1; omega]
      exact square.mul_right a

/-- A number, a root that should be primitive for it, and the primes whose product is its
predecessor. -/
structure Witness where
  number : ℕ
  root : ℕ
  factors : List ℕ

namespace Witness

/-- The power of the root modulo the number. -/
def power (w : Witness) (e : ℕ) : ℕ := powerMod w.number w.root (w.number.log2 + 1) e

theorem natCast_power (w : Witness) {e : ℕ} (h : e < w.number) :
    ((w.power e : ℕ) : ZMod w.number) = (w.root : ZMod w.number) ^ e := by
  have hb : e < 2 ^ (w.number.log2 + 1) := h.trans Nat.lt_log2_self
  rw [← Nat.cast_pow]
  exact (ZMod.natCast_eq_natCast_iff _ _ _).mpr (powerMod_modEq _ _ hb)

/-- Whether the factors are known primes whose product is the predecessor, and the root has the
predecessor as its order. -/
def passes (known : List ℕ) (w : Witness) : Bool :=
  decide (1 < w.number) && w.factors.all (known.contains ·) && w.factors.prod == w.number - 1 &&
    w.power (w.number - 1) == 1 &&
    w.factors.all fun q => w.power ((w.number - 1) / q) % w.number != 1

end Witness

/-- **Lucas's test** for a witness whose factors are prime. -/
theorem prime_of_passes {known : List ℕ} (hk : ∀ q ∈ known, q.Prime) {w : Witness}
    (h : w.passes known = true) : w.number.Prime := by
  simp only [Witness.passes, Bool.and_eq_true, decide_eq_true_eq, List.all_eq_true,
    List.contains_iff_mem, beq_iff_eq, bne_iff_ne] at h
  obtain ⟨⟨⟨⟨hlt, hknown⟩, hprod⟩, hfull⟩, hpart⟩ := h
  refine lucas_primality w.number w.root ?_ fun q hq hdvd => ?_
  · rw [← w.natCast_power (by omega), hfull, Nat.cast_one]
  · rw [← hprod, hq.prime.dvd_prod_iff] at hdvd
    obtain ⟨r, hr, hqr⟩ := hdvd
    obtain rfl : q = r := (Nat.prime_dvd_prime_iff_eq hq (hk r (hknown r hr))).mp hqr
    have hle : (w.number - 1) / q ≤ w.number - 1 := Nat.div_le_self _ _
    rw [← w.natCast_power (by omega)]
    intro hone
    have hmod := (ZMod.natCast_eq_natCast_iff' _ 1 _).mp (hone.trans Nat.cast_one.symm)
    rw [Nat.mod_eq_of_lt hlt] at hmod
    exact hpart q hr hmod

/-- Whether every witness passes, given the numbers before it. -/
def passAll : List ℕ → List Witness → Bool
  | _, [] => true
  | known, w :: ws => w.passes known && passAll (w.number :: known) ws

theorem prime_of_passAll {ws : List Witness} {known : List ℕ} (hk : ∀ q ∈ known, q.Prime)
    (h : passAll known ws = true) : ∀ w ∈ ws, w.number.Prime := by
  induction ws generalizing known with
  | nil => exact fun w hw => absurd hw List.not_mem_nil
  | cons v ws ih =>
    rw [passAll, Bool.and_eq_true] at h
    have hv : v.number.Prime := prime_of_passes hk h.1
    have hrest := ih (List.forall_mem_cons.mpr ⟨hv, hk⟩) h.2
    exact List.forall_mem_cons.mpr ⟨hv, hrest⟩

/-! ## The primes -/

/-- Witnesses for the field prime, the group order and every prime below them that they rest on. -/
def witnesses : List Witness := [
  ⟨2, 1, []⟩, ⟨3, 2, [2]⟩, ⟨5, 2, [2, 2]⟩, ⟨7, 3, [2, 3]⟩, ⟨11, 2, [2, 5]⟩, ⟨13, 2, [2, 2, 3]⟩,
  ⟨17, 3, [2, 2, 2, 2]⟩, ⟨19, 2, [2, 3, 3]⟩, ⟨23, 5, [2, 11]⟩, ⟨29, 2, [2, 2, 7]⟩,
  ⟨31, 3, [2, 3, 5]⟩, ⟨37, 2, [2, 2, 3, 3]⟩, ⟨41, 6, [2, 2, 2, 5]⟩, ⟨53, 2, [2, 2, 13]⟩,
  ⟨59, 2, [2, 29]⟩, ⟨67, 2, [2, 3, 11]⟩, ⟨73, 5, [2, 2, 2, 3, 3]⟩, ⟨83, 2, [2, 41]⟩,
  ⟨97, 5, [2, 2, 2, 2, 2, 3]⟩, ⟨101, 2, [2, 2, 5, 5]⟩, ⟨103, 5, [2, 3, 17]⟩,
  ⟨109, 6, [2, 2, 3, 3, 3]⟩, ⟨113, 3, [2, 2, 2, 2, 7]⟩, ⟨131, 2, [2, 5, 13]⟩, ⟨149, 2, [2, 2, 37]⟩,
  ⟨199, 3, [2, 3, 3, 11]⟩, ⟨239, 7, [2, 7, 17]⟩, ⟨271, 6, [2, 3, 3, 3, 5]⟩, ⟨293, 2, [2, 2, 73]⟩,
  ⟨419, 2, [2, 11, 19]⟩, ⟨443, 2, [2, 13, 17]⟩, ⟨461, 2, [2, 2, 5, 23]⟩, ⟨631, 3, [2, 3, 3, 5, 7]⟩,
  ⟨797, 2, [2, 2, 199]⟩, ⟨887, 5, [2, 443]⟩, ⟨971, 6, [2, 5, 97]⟩, ⟨1373, 2, [2, 2, 7, 7, 7]⟩,
  ⟨1409, 3, [2, 2, 2, 2, 2, 2, 2, 11]⟩, ⟨1627, 3, [2, 3, 271]⟩, ⟨1871, 14, [2, 5, 11, 17]⟩,
  ⟨2011, 3, [2, 3, 5, 67]⟩, ⟨2621, 2, [2, 2, 5, 131]⟩, ⟨2657, 3, [2, 2, 2, 2, 2, 83]⟩,
  ⟨2731, 3, [2, 3, 5, 7, 13]⟩, ⟨2861, 2, [2, 2, 5, 11, 13]⟩, ⟨4051, 10, [2, 3, 3, 3, 3, 5, 5]⟩,
  ⟨4423, 3, [2, 3, 11, 67]⟩, ⟨5323, 5, [2, 3, 887]⟩, ⟨7723, 3, [2, 3, 3, 3, 11, 13]⟩,
  ⟨9349, 2, [2, 2, 3, 19, 41]⟩, ⟨13441, 11, [2, 2, 2, 2, 2, 2, 2, 3, 5, 7]⟩,
  ⟨16699, 3, [2, 3, 11, 11, 23]⟩, ⟨20113, 10, [2, 2, 2, 2, 3, 419]⟩, ⟨24809, 6, [2, 2, 2, 7, 443]⟩,
  ⟨28181, 2, [2, 2, 5, 1409]⟩, ⟨41201, 3, [2, 2, 2, 2, 5, 5, 103]⟩, ⟨85831, 3, [2, 3, 5, 2861]⟩,
  ⟨96557, 2, [2, 2, 101, 239]⟩, ⟨120233, 3, [2, 2, 2, 7, 19, 113]⟩,
  ⟨305873, 3, [2, 2, 2, 2, 7, 2731]⟩, ⟨1206781, 10, [2, 2, 3, 5, 20113]⟩,
  ⟨1627771, 3, [2, 3, 5, 29, 1871]⟩, ⟨4681609, 23, [2, 2, 2, 3, 97, 2011]⟩,
  ⟨7240687, 3, [2, 3, 1206781]⟩, ⟨13331831, 13, [2, 5, 971, 1373]⟩,
  ⟨44706919, 6, [2, 3, 797, 9349]⟩, ⟨107590001, 3, [2, 2, 2, 2, 5, 5, 5, 5, 7, 29, 53]⟩,
  ⟨545358713, 5, [2, 2, 2, 41, 59, 28181]⟩, ⟨297159362677, 2, [2, 2, 3, 3, 11, 461, 1627771]⟩,
  ⟨0x17D6CFB8EE30C51, 3, [2, 2, 2, 2, 16699, 85831, 4681609]⟩,
  ⟨0x267F72148D98CD9, 6, [2, 2, 2, 5, 5, 2621, 24809, 13331831]⟩,
  ⟨0x978C6F353C3889A79, 3, [2, 2, 2, 17, 59, 4051, 120233, 44706919]⟩,
  ⟨0x4B0B9F59A0A545761C9, 5, [2, 2, 2, 3, 5323, 0x267F72148D98CD9]⟩,
  ⟨0x1C245BC19C3DFA0C4AB7, 6, [2, 3, 0x4B0B9F59A0A545761C9]⟩,
  ⟨0x5DDB9F12EF6348A3E23BA5E3, 2, [2, 293, 305873, 545358713, 297159362677]⟩,
  ⟨0x10DBFF26EAB8198050172EE03275, 2, [2, 2, 3, 3, 3, 109, 0x5DDB9F12EF6348A3E23BA5E3]⟩,
  ⟨0xC03A94B2D3E64419A05CD8CCBF987069, 3, [2, 2, 2, 7, 7, 11, 1627, 2657, 4423, 41201, 96557,
    7240687, 107590001]⟩,
  ⟨0x1DB8260E5E3B460A46A0088FCCF6A3A5936D75D89A776D4C0DA4F338AAFB, 10, [2, 3, 5, 29, 29, 31, 7723,
    0x1C245BC19C3DFA0C4AB7, 0xC03A94B2D3E64419A05CD8CCBF987069]⟩,
  ⟨0xFFFFFFFFFFFFFFFFFFFFFFFFFFFFFFFEBAAEDCE6AF48A03BBFD25E8CD0364141, 7, [2, 2, 2, 2, 2, 2, 3, 149,
    631, 0x17D6CFB8EE30C51, 0x978C6F353C3889A79, 0x10DBFF26EAB8198050172EE03275]⟩,
  ⟨0xFFFFFFFFFFFFFFFFFFFFFFFFFFFFFFFFFFFFFFFFFFFFFFFFFFFFFFFEFFFFFC2F, 3, [2, 3, 7, 13441,
    0x1DB8260E5E3B460A46A0088FCCF6A3A5936D75D89A776D4C0DA4F338AAFB]⟩]

theorem passAll_witnesses : passAll [] witnesses = true := by decide +kernel

/-- The field prime as a natural number. -/
def fieldSize : ℕ := 0xFFFFFFFFFFFFFFFFFFFFFFFFFFFFFFFFFFFFFFFFFFFFFFFFFFFFFFFEFFFFFC2F

theorem prime_of_mem_witnesses {n : ℕ} (h : n ∈ witnesses.map Witness.number) : n.Prime := by
  obtain ⟨w, hw, rfl⟩ := List.mem_map.mp h
  exact prime_of_passAll (fun q hq => absurd hq List.not_mem_nil) passAll_witnesses w hw

theorem fieldPrime_eq : fieldPrime = fieldSize := by decide

theorem prime_fieldSize : fieldSize.Prime := prime_of_mem_witnesses (by decide)

theorem prime_order : order.Prime := prime_of_mem_witnesses (by decide)

end Airgap.Curve
