import Airgap.Bytes
import Mathlib.Data.List.Induction
import Mathlib.Tactic.Ring

/-!
# Numerals and blocks

* `toNat_append`, `toNat_replicate_zero`: a numeral in two parts, and zeros in front of one.
* `length_of_mem_blocks`, `blocks_eq`: blocks are whole where there are bytes enough, and each lies behind
  those before it.
* `length_minimal_le_iff`: the width of `minimal n` is the least in which `n` fits.
* `toNat_minimal`, `minimal_toNat`: `minimal` and `toNat` are inverse to each other between the
  numbers and the byte strings that do not start with a zero.
-/

namespace Airgap.Bytes

theorem capacity_eq (w : ℕ) : capacity w = 256 ^ w := rfl

theorem toNat_append (as bs : Bytes) :
    toNat (as ++ bs) = toNat as * capacity bs.length + toNat bs := by
  induction bs using List.reverseRecOn with
  | nil => simp [capacity]
  | append_singleton bs b ih =>
    rw [← List.append_assoc, toNat_concat, toNat_concat, ih, List.length_append,
      List.length_singleton, capacity_succ]
    ring

theorem toNat_cons (b : UInt8) (bs : Bytes) :
    toNat (b :: bs) = b.toNat * capacity bs.length + toNat bs := by
  rw [← List.singleton_append, toNat_append]
  simp [toNat]

theorem toNat_replicate_zero (n : ℕ) (bs : Bytes) : toNat (List.replicate n 0 ++ bs) = toNat bs := by
  induction n with
  | zero => rfl
  | succ n ih =>
    rw [List.replicate_succ, List.cons_append, toNat_cons, ih, UInt8.toNat_zero, Nat.zero_mul,
      Nat.zero_add]

/-- The last bytes of a numeral are its rest. -/
theorem toNat_drop (bs : Bytes) (k : ℕ) :
    toNat (bs.drop k) = toNat bs % capacity (bs.length - k) := by
  have hlt := toNat_lt (bs.drop k)
  have hsplit := toNat_append (bs.take k) (bs.drop k)
  rw [List.take_append_drop, List.length_drop] at hsplit
  rw [List.length_drop] at hlt
  rw [hsplit, Nat.mul_add_mod_self_right, Nat.mod_eq_of_lt hlt]

/-! ## Blocks -/

theorem length_of_mem_blocks {size n : ℕ} {bs block : Bytes} (h : n * size ≤ bs.length)
    (hb : block ∈ blocks size n bs) : block.length = size := by
  induction n generalizing bs with
  | zero => exact absurd hb List.not_mem_nil
  | succ n ih =>
    rw [Nat.succ_mul] at h
    rcases List.mem_cons.mp hb with rfl | hb
    · exact List.length_take_of_le (by omega)
    · exact ih (by rw [List.length_drop]; omega) hb

theorem blocks_eq (size n : ℕ) (bs : Bytes) :
    blocks size n bs = (List.range n).map fun t => (bs.drop (t * size)).take size := by
  induction n generalizing bs with
  | zero => rfl
  | succ n ih =>
    rw [blocks, ih, List.range_succ_eq_map, List.map_cons, List.map_map, Nat.zero_mul, List.drop_zero]
    congr 1
    refine List.map_congr_left fun t _ => ?_
    rw [List.drop_drop, Function.comp_apply, Nat.succ_mul, Nat.add_comm]

/-! ## The shortest form -/

theorem bitLength_le_iff {n k : ℕ} : bitLength n ≤ k ↔ n < 2 ^ k := by
  unfold bitLength
  split
  · rename_i hn
    simp [hn]
  · rename_i hn
    exact Nat.log2_lt hn

theorem length_minimal_le_iff {n w : ℕ} : (minimal n).length ≤ w ↔ n < capacity w := by
  have hw : capacity w = 2 ^ (8 * w) := by rw [capacity_eq, Nat.pow_mul]
  rw [minimal, length_ofNat, hw, ← bitLength_le_iff]
  omega

theorem toNat_minimal (n : ℕ) : toNat (minimal n) = n := by
  have hn := length_minimal_le_iff.mp (Nat.le_refl (minimal n).length)
  rw [minimal, length_ofNat] at hn
  exact toNat_ofNat_of_lt hn

/-- The shortest form does not start with a zero. -/
theorem head?_minimal (n : ℕ) : (minimal n).head? ≠ some 0 := by
  intro h
  obtain ⟨rest, hrest⟩ := List.head?_eq_some_iff.mp h
  have hn : n < capacity rest.length := by
    rw [← toNat_minimal n, hrest, toNat_cons, UInt8.toNat_zero, Nat.zero_mul, Nat.zero_add]
    exact toNat_lt rest
  have hlen := length_minimal_le_iff.mpr hn
  rw [hrest, List.length_cons] at hlen
  omega

theorem capacity_le_toNat {b : UInt8} (hb : b ≠ 0) (bs : Bytes) :
    capacity bs.length ≤ toNat (b :: bs) := by
  have hpos : 0 < b.toNat := Nat.pos_of_ne_zero fun h => hb (UInt8.toNat_inj.mp h)
  rw [toNat_cons]
  exact le_trans (Nat.le_mul_of_pos_left _ hpos) (Nat.le_add_right _ _)

theorem minimal_toNat {bs : Bytes} (h : bs.head? ≠ some 0) : minimal (toNat bs) = bs := by
  have hle : (minimal (toNat bs)).length ≤ bs.length := length_minimal_le_iff.mpr (toNat_lt bs)
  have hge : bs.length ≤ (minimal (toNat bs)).length := by
    cases bs with
    | nil => exact Nat.zero_le _
    | cons b bs =>
      have hb : b ≠ 0 := fun hb => h (congrArg some hb)
      have hcap := capacity_le_toNat hb bs
      by_contra hlt
      rw [List.length_cons] at hlt
      have := length_minimal_le_iff.mp (show (minimal (toNat (b :: bs))).length ≤ bs.length by omega)
      omega
  rw [minimal, length_ofNat] at hle hge
  rw [minimal, Nat.le_antisymm hle hge, ofNat_toNat]

end Airgap.Bytes
