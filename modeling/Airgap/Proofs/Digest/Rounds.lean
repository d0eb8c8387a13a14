import Airgap.Proofs.Bytes
import Airgap.Proofs.Digest.Tables
import Mathlib.Tactic.IntervalCases

/-!
# The compression functions on machine words

* `toBitVec_rotr32`, `toBitVec_rotr64`, `toBitVec_rotl32`: two shifts make a rotation.
* `Sha2.Computes`: the operations of machine words are those of a member of the SHA-2 family;
  `Computes.schedule_eq` follows the recurrence, `Computes.compress_eq` the rounds.
* `Ripemd160.Round.Computes`: a round takes what sixteen steps of a line take; `Round.Computes.run_chain`
  follows a round, `Ripemd160.compress_chain` both lines.
-/

namespace Airgap.Digest

/-! ## Lists -/

section MapRange

variable {α β : Type} {f : α → β} {g : ℕ → β} {as : List α} {n i : ℕ}

theorem length_of_map_eq (h : as.map f = (List.range n).map g) : as.length = n := by
  have hlength := congrArg List.length h
  rwa [List.length_map, List.length_map, List.length_range] at hlength

theorem apply_getD_of_map_eq (h : as.map f = (List.range n).map g) (hi : i < n) (d : α) :
    f (as.getD i d) = g i := by
  have hmap : (as.map f).getD i (f d) = g i := by rw [h, getD_map_range hi]
  rwa [List.getD_map] at hmap

theorem apply_getElem_of_map_eq (h : as.map f = (List.range n).map g) (hi : i < as.length) :
    f as[i] = g i := by
  rw [← apply_getD_of_map_eq h (length_of_map_eq h ▸ hi) as[i], List.getD_eq_getElem]

end MapRange

/-- A property of what a fold has come to after each element. -/
theorem foldl_invariant {α σ : Type} {f : σ → α → σ} {P : ℕ → σ → Prop} {as : List α} {n : ℕ}
    (hn : as.length = n) {s : σ} (h0 : P 0 s)
    (hstep : ∀ i (hi : i < as.length) s, P i s → P (i + 1) (f s as[i])) : P n (as.foldl f s) := by
  subst hn
  induction as generalizing s P with
  | nil => exact h0
  | cons a as ih =>
    refine ih (P := fun i => P (i + 1)) (hstep 0 (Nat.zero_lt_succ _) s h0) fun i hi s hs => ?_
    exact hstep (i + 1) (Nat.succ_lt_succ hi) s hs

/-! ## Rotations -/

theorem toBitVec_shiftLeft32 (x n : UInt32) :
    (x <<< n).toBitVec = x.toBitVec <<< (n.toNat % 32) := by
  rw [UInt32.toBitVec_shiftLeft, BitVec.shiftLeft_eq', BitVec.toNat_umod]
  rfl

theorem toBitVec_shiftRight32 (x n : UInt32) :
    (x >>> n).toBitVec = x.toBitVec >>> (n.toNat % 32) := by
  rw [UInt32.toBitVec_shiftRight, BitVec.ushiftRight_eq', BitVec.toNat_umod]
  rfl

theorem toBitVec_shiftLeft64 (x n : UInt64) :
    (x <<< n).toBitVec = x.toBitVec <<< (n.toNat % 64) := by
  rw [UInt64.toBitVec_shiftLeft, BitVec.shiftLeft_eq', BitVec.toNat_umod]
  rfl

theorem toBitVec_shiftRight64 (x n : UInt64) :
    (x >>> n).toBitVec = x.toBitVec >>> (n.toNat % 64) := by
  rw [UInt64.toBitVec_shiftRight, BitVec.ushiftRight_eq', BitVec.toNat_umod]
  rfl

theorem toNat_sub_mod32 {n : UInt32} (h0 : 0 < n.toNat) (hn : n.toNat < 32) :
    (32 - n).toNat % 32 = 32 - n.toNat := by
  have hsub : (32 - n).toNat = 32 - n.toNat :=
    UInt32.toNat_sub_of_le _ _ (UInt32.le_iff_toNat_le.mpr (Nat.le_of_lt hn))
  omega

theorem toNat_sub_mod64 {n : UInt64} (h0 : 0 < n.toNat) (hn : n.toNat < 64) :
    (64 - n).toNat % 64 = 64 - n.toNat := by
  have hsub : (64 - n).toNat = 64 - n.toNat :=
    UInt64.toNat_sub_of_le _ _ (UInt64.le_iff_toNat_le.mpr (Nat.le_of_lt hn))
  omega

theorem toBitVec_rotr32 (x : UInt32) {n : UInt32} (h0 : 0 < n.toNat) (hn : n.toNat < 32) :
    (rotr32 x n).toBitVec = x.toBitVec.rotateRight n.toNat := by
  rw [rotr32, UInt32.toBitVec_or, toBitVec_shiftLeft32, toBitVec_shiftRight32,
    toNat_sub_mod32 h0 hn, BitVec.rotateRight_def, Nat.mod_eq_of_lt hn]

theorem toBitVec_rotl32 (x : UInt32) {n : UInt32} (h0 : 0 < n.toNat) (hn : n.toNat < 32) :
    (rotl32 x n).toBitVec = x.toBitVec.rotateLeft n.toNat := by
  rw [rotl32, UInt32.toBitVec_or, toBitVec_shiftLeft32, toBitVec_shiftRight32,
    toNat_sub_mod32 h0 hn, BitVec.rotateLeft_def, Nat.mod_eq_of_lt hn]

theorem toBitVec_rotr64 (x : UInt64) {n : UInt64} (h0 : 0 < n.toNat) (hn : n.toNat < 64) :
    (rotr64 x n).toBitVec = x.toBitVec.rotateRight n.toNat := by
  rw [rotr64, UInt64.toBitVec_or, toBitVec_shiftLeft64, toBitVec_shiftRight64,
    toNat_sub_mod64 h0 hn, BitVec.rotateRight_def, Nat.mod_eq_of_lt hn]

/-! ## SHA-256 and SHA-512 -/

namespace Sha2

/-- The words of a variant read as `b` bits have the operations of a member of the family. -/
structure Computes {W : Type} [Variant W] {b : ℕ} (φ : W → BitVec b) (m : Fips180.Member b) :
    Prop where
  size_eq : 8 * Variant.size W = b
  le_rounds : 16 ≤ m.rounds
  constants_eq : (Variant.constants (W := W)).map φ = (List.range m.rounds).map (Fips180.constant b)
  ofNat_eq : ∀ n : ℕ, φ (Variant.ofNat n) = BitVec.ofNat b n
  add_eq : ∀ x y : W, φ (x + y) = φ x + φ y
  and_eq : ∀ x y : W, φ (x &&& y) = φ x &&& φ y
  xor_eq : ∀ x y : W, φ (x ^^^ y) = φ x ^^^ φ y
  not_eq : ∀ x : W, φ (~~~x) = ~~~(φ x)
  bigSigma0_eq : ∀ x : W, φ (Variant.bigSigma0 x) = m.bigSigma0 (φ x)
  bigSigma1_eq : ∀ x : W, φ (Variant.bigSigma1 x) = m.bigSigma1 (φ x)
  smallSigma0_eq : ∀ x : W, φ (Variant.smallSigma0 x) = m.smallSigma0 (φ x)
  smallSigma1_eq : ∀ x : W, φ (Variant.smallSigma1 x) = m.smallSigma1 (φ x)

theorem computes_sha256 : Computes UInt32.toBitVec Fips180.sha256 where
  size_eq := rfl
  le_rounds := by decide
  constants_eq := sha256_constants
  ofNat_eq _ := rfl
  add_eq _ _ := rfl
  and_eq _ _ := rfl
  xor_eq _ _ := rfl
  not_eq _ := rfl
  bigSigma0_eq x := by
    simp (disch := decide) only [Variant.bigSigma0, UInt32.toBitVec_xor, toBitVec_rotr32]
    rfl
  bigSigma1_eq x := by
    simp (disch := decide) only [Variant.bigSigma1, UInt32.toBitVec_xor, toBitVec_rotr32]
    rfl
  smallSigma0_eq x := by
    simp (disch := decide) only [Variant.smallSigma0, UInt32.toBitVec_xor, toBitVec_rotr32,
      toBitVec_shiftRight32]
    rfl
  smallSigma1_eq x := by
    simp (disch := decide) only [Variant.smallSigma1, UInt32.toBitVec_xor, toBitVec_rotr32,
      toBitVec_shiftRight32]
    rfl

theorem computes_sha512 : Computes UInt64.toBitVec Fips180.sha512 where
  size_eq := rfl
  le_rounds := by decide
  constants_eq := sha512_constants
  ofNat_eq _ := rfl
  add_eq _ _ := rfl
  and_eq _ _ := rfl
  xor_eq _ _ := rfl
  not_eq _ := rfl
  bigSigma0_eq x := by
    simp (disch := decide) only [Variant.bigSigma0, UInt64.toBitVec_xor, toBitVec_rotr64]
    rfl
  bigSigma1_eq x := by
    simp (disch := decide) only [Variant.bigSigma1, UInt64.toBitVec_xor, toBitVec_rotr64]
    rfl
  smallSigma0_eq x := by
    simp (disch := decide) only [Variant.smallSigma0, UInt64.toBitVec_xor, toBitVec_rotr64,
      toBitVec_shiftRight64]
    rfl
  smallSigma1_eq x := by
    simp (disch := decide) only [Variant.smallSigma1, UInt64.toBitVec_xor, toBitVec_rotr64,
      toBitVec_shiftRight64]
    rfl

variable {W : Type} [Variant W] {b : ℕ} {φ : W → BitVec b} {m : Fips180.Member b}

namespace Computes

theorem blockWords_eq (h : Computes φ m) (block : Bytes) :
    (blockWords block : List W).map φ = (List.range 16).map (Fips180.schedule m block) := by
  have hsize : Variant.size W = b / 8 := by
    have := h.size_eq
    omega
  rw [blockWords, Bytes.blocks_eq, hsize, List.map_map, List.map_map]
  refine List.map_congr_left fun t ht => ?_
  rw [Fips180.schedule_of_lt (List.mem_range.mp ht)]
  exact h.ofNat_eq _

theorem expand_eq (h : Computes φ m) {block : Bytes} {i : ℕ} (hi : 16 ≤ i) {w : Array W}
    (hw : w.toList.map φ = (List.range i).map (Fips180.schedule m block)) :
    (expand w).toList.map φ = (List.range (i + 1)).map (Fips180.schedule m block) := by
  have hsize : w.size = i := length_of_map_eq hw
  have hword {j : ℕ} (hj : j < i) (d : W) : φ (w.getD j d) = Fips180.schedule m block j := by
    rw [← apply_getD_of_map_eq hw hj d, List.getD_eq_getElem?_getD, Array.getElem?_toList,
      Array.getD_eq_getD_getElem?]
  rw [expand, Array.toList_push, List.map_append, hw, List.map_singleton, List.range_succ,
    List.map_append, List.map_singleton, Fips180.schedule_of_le hi, hsize]
  simp only [h.add_eq, h.smallSigma0_eq, h.smallSigma1_eq]
  rw [hword (by omega), hword (by omega), hword (by omega), hword (by omega)]
  -- the recurrence adds the same four words in another order
  congr 2
  ac_rfl

theorem schedule_eq (h : Computes φ m) (block : Bytes) :
    (schedule block : Array W).toList.map φ =
      (List.range m.rounds).map (Fips180.schedule m block) := by
  have hall (n : ℕ) : (Nat.repeat expand n (blockWords block : List W).toArray).toList.map φ =
      (List.range (16 + n)).map (Fips180.schedule m block) := by
    induction n with
    | zero => exact h.blockWords_eq block
    | succ n ih => exact h.expand_eq (Nat.le_add_right 16 n) ih
  rw [schedule, hall, length_of_map_eq h.constants_eq, Nat.add_sub_cancel' h.le_rounds]

theorem round_eq (h : Computes φ m) (v : State W) (k x : W) :
    (round v k x).map φ = Fips180.step m (v.map φ) (φ k) (φ x) := by
  simp only [round, choose, majority, State.map, Fips180.step, Fips180.choose, Fips180.majority,
    h.add_eq, h.and_eq, h.xor_eq, h.not_eq, h.bigSigma0_eq, h.bigSigma1_eq]

/-- **On the bits of machine words the rounds are those that are published.** -/
theorem compress_eq (h : Computes φ m) (s : State W) (block : Bytes) :
    (compress s block).map φ = Fips180.compress m (s.map φ) block := by
  have hschedule := h.schedule_eq block
  have hlength : ((Variant.constants (W := W)).zip (schedule block : Array W).toList).length =
      m.rounds := by
    rw [List.length_zip, length_of_map_eq h.constants_eq, length_of_map_eq hschedule, Nat.min_self]
  have hall := foldl_invariant (f := fun v p => round v p.1 p.2)
    (P := fun i v => v.map φ = Fips180.working m (s.map φ) block i) hlength (s := s) rfl ?_
  · rw [compress, Fips180.compress, ← hall]
    simp only [State.add, State.map, h.add_eq, BitVec.add_comm]
  · intro i hi v hv
    rw [List.getElem_zip, h.round_eq, hv, apply_getElem_of_map_eq h.constants_eq,
      apply_getElem_of_map_eq hschedule]
    rfl

end Computes

end Sha2

/-! ## RIPEMD-160 -/

namespace Ripemd160

open PublishedRipemd (Chain Line)

/-- The words of a state. -/
def State.chain (s : State) : Chain (BitVec 32) :=
  ⟨s.a.toBitVec, s.b.toBitVec, s.c.toBitVec, s.d.toBitVec, s.e.toBitVec⟩

/-- A round takes what sixteen steps of a line take, from step `j` on. -/
structure Round.Computes (q : Round) (l : Line) (j : ℕ) : Prop where
  mix_eq : ∀ i < 16, ∀ x y z,
    (q.f x y z).toBitVec = l.mix (j + i) x.toBitVec y.toBitVec z.toBitVec
  constant_eq : ∀ i < 16, q.constant.toBitVec = l.constant (j + i)
  words_eq : q.words = (List.range 16).map fun i => l.word (j + i)
  rotations_eq : q.rotations.map UInt32.toNat = (List.range 16).map fun i => l.rotation (j + i)
  word_lt : ∀ i < 16, l.word (j + i) < 16
  rotation_pos : ∀ i < 16, 0 < l.rotation (j + i)
  rotation_lt : ∀ i < 16, l.rotation (j + i) < 32

theorem blockWords_getD (block : Bytes) {i : ℕ} (hi : i < 16) :
    ((blockWords block).getD i 0).toBitVec = PublishedRipemd.blockWord block i := by
  rw [blockWords, Bytes.blocks_eq, List.map_map, Array.getD_eq_getD_getElem?, List.getElem?_toArray,
    ← List.getD_eq_getElem?_getD, getD_map_range hi]
  rfl

theorem step_chain {f : UInt32 → UInt32 → UInt32 → UInt32}
    {f' : BitVec 32 → BitVec 32 → BitVec 32 → BitVec 32}
    (hf : ∀ x y z, (f x y z).toBitVec = f' x.toBitVec y.toBitVec z.toBitVec) (k : UInt32)
    (s : State) (x : UInt32) {n : UInt32} (h0 : 0 < n.toNat) (hn : n.toNat < 32) :
    (step f k s x n).chain =
      PublishedRipemd.step f' s.chain x.toBitVec k.toBitVec n.toNat := by
  have hten : (rotl32 s.c 10).toBitVec = s.c.toBitVec.rotateLeft 10 :=
    toBitVec_rotl32 s.c (by decide) (by decide)
  simp only [step, State.chain, PublishedRipemd.step, UInt32.toBitVec_add,
    toBitVec_rotl32 _ h0 hn, hf, hten]

/-- **A round takes a line sixteen steps further.** -/
theorem Round.Computes.run_chain {q : Round} {l : Line} {j : ℕ} (h : q.Computes l j) (block : Bytes)
    {s : State} {c : Chain (BitVec 32)} (hs : s.chain = l.run c block j) :
    (q.run (blockWords block) s).chain = l.run c block (j + 16) := by
  have hwords : q.words.length = 16 := by rw [h.words_eq, List.length_map, List.length_range]
  have hrotations : q.rotations.length = 16 := length_of_map_eq h.rotations_eq
  have hlength : (q.words.zip q.rotations).length = 16 := by
    rw [List.length_zip, hwords, hrotations, Nat.min_self]
  refine foldl_invariant (P := fun i (s : State) => s.chain = l.run c block (j + i)) hlength hs
    fun i hi s hs => ?_
  have hi16 : i < 16 := hlength ▸ hi
  have hword : q.words[i] = l.word (j + i) := by
    simp only [h.words_eq, List.getElem_map, List.getElem_range]
  have hrotation : q.rotations[i].toNat = l.rotation (j + i) :=
    apply_getElem_of_map_eq h.rotations_eq _
  rw [List.getElem_zip, step_chain (h.mix_eq i hi16) _ _ _ (hrotation ▸ h.rotation_pos i hi16)
    (hrotation ▸ h.rotation_lt i hi16), hs, hword, blockWords_getD block (h.word_lt i hi16),
    hrotation, h.constant_eq i hi16]
  rfl

theorem functions_mix {r : ℕ} (hr : r < 5) (x y z : UInt32) :
    (functions.getD r (fun _ _ _ => 0) x y z).toBitVec =
      PublishedRipemd.mix r x.toBitVec y.toBitVec z.toBitVec := by
  interval_cases r <;> rfl

theorem functions_reverse_mix {r : ℕ} (hr : r < 5) (x y z : UInt32) :
    (functions.reverse.getD r (fun _ _ _ => 0) x y z).toBitVec =
      PublishedRipemd.mix (4 - r) x.toBitVec y.toBitVec z.toBitVec := by
  interval_cases r <;> rfl

section Line

variable {l : Line} {fs : List (UInt32 → UInt32 → UInt32 → UInt32)} {ks : List UInt32}
  {words : List (List ℕ)} {rotations : List (List UInt32)}

theorem computes_rounds (ht : PublishedRipemd.Tabulates l ks words rotations)
    (hmix : ∀ j < 80, ∀ x y z, (fs.getD (j / 16) (fun _ _ _ => 0) x y z).toBitVec =
      l.mix j x.toBitVec y.toBitVec z.toBitVec)
    {r : ℕ} (hr : r < (rounds fs ks words rotations).length) (hr5 : r < 5) :
    (rounds fs ks words rotations)[r].Computes l (16 * r) := by
  -- the sixteen steps of a round read one row
  have hrow {i : ℕ} (hi : i < 16) : 16 * r + i < 80 ∧ (16 * r + i) / 16 = r := by omega
  simp only [rounds, List.length_map, List.length_zip, Nat.lt_min] at hr
  simp only [rounds, List.getElem_map, List.getElem_zip]
  refine ⟨fun i hi x y z => ?_, fun i hi => ?_, ?_, ?_, fun i hi => ht.word_lt _ (hrow hi).1,
    fun i hi => ht.rotation_pos _ (hrow hi).1, fun i hi => ht.rotation_lt _ (hrow hi).1⟩
  · rw [← hmix _ (hrow hi).1, (hrow hi).2, List.getD_eq_getElem]
  · have hconstant := ht.constant_eq _ (hrow hi).1
    rw [(hrow hi).2, List.getElem?_map, List.getElem?_eq_getElem (by omega)] at hconstant
    exact Option.some.inj hconstant
  · simp only [ht.words_eq, List.getElem_map, List.getElem_range]
  · exact apply_getElem_of_map_eq ht.rotations_eq _

/-- The rounds that four tables describe are a line. -/
theorem runLine_chain (ht : PublishedRipemd.Tabulates l ks words rotations)
    (hmix : ∀ j < 80, ∀ x y z, (fs.getD (j / 16) (fun _ _ _ => 0) x y z).toBitVec =
      l.mix j x.toBitVec y.toBitVec z.toBitVec)
    (hlength : (rounds fs ks words rotations).length = 5) (block : Bytes) (s : State) :
    (runLine (rounds fs ks words rotations) (blockWords block) s).chain =
      l.run s.chain block 80 := by
  refine foldl_invariant (f := fun s q => q.run (blockWords block) s)
    (P := fun r v => v.chain = l.run s.chain block (16 * r)) hlength (s := s) rfl
    fun r hr v hv => ?_
  exact (computes_rounds ht hmix hr (hlength ▸ hr)).run_chain block hv

end Line

/-- **On the bits of machine words the two lines are those that are published.** -/
theorem compress_chain (s : State) (block : Bytes) :
    (compress s block).chain = PublishedRipemd.compress s.chain block := by
  have hleft : (runLine leftLine (blockWords block) s).chain =
      PublishedRipemd.left.run s.chain block 80 :=
    runLine_chain PublishedRipemd.tabulates_left
      (fun j hj => functions_mix (Nat.div_lt_of_lt_mul hj)) rfl block s
  have hright : (runLine rightLine (blockWords block) s).chain =
      PublishedRipemd.right.run s.chain block 80 := by
    refine runLine_chain PublishedRipemd.tabulates_right (fun j hj x y z => ?_) rfl block s
    -- counted from the end, the steps have the functions of the left line
    have hplace : (79 - j) / 16 = 4 - j / 16 := by omega
    rw [functions_reverse_mix (Nat.div_lt_of_lt_mul hj), ← hplace]
    rfl
  rw [compress, PublishedRipemd.compress, ← hleft, ← hright]
  rfl

end Ripemd160

end Airgap.Digest
