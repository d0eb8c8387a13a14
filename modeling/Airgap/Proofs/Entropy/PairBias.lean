import Airgap.Proofs.Entropy.Lifecycle
import Mathlib.Algebra.BigOperators.Ring.Finset
import Mathlib.Algebra.BigOperators.Group.Finset.Sigma
import Mathlib.Data.Nat.Bits
import Mathlib.Tactic.Ring

/-!
# The corrected bits of a biased die

A die shows each outcome of `w` bits with a weight of its own, and two rolls are independent, so a pair
has the product of their weights.

* `eventWeight`, `pairWeight`: the total weight of the pairs whose corrected bits form an event, or are
  given bits.
* `eventWeight_map_not`: turning all bits over changes no total, since the two rolls can change places.
* `pairWeight_independent`: if the bits of one roll are independent, the total depends on the number of
  the corrected bits alone.
* `correctedPair_unbiased_bitwise`: which totals agree whatever the weights are.
-/

namespace Airgap.Entropy

variable {R : Type*} [CommSemiring R]

/-- The pairs of outcomes of `w` bits. -/
def outcomePairs (w : ℕ) : Finset (ℕ × ℕ) := Finset.range (2 ^ w) ×ˢ Finset.range (2 ^ w)

/-- The total weight of the pairs whose corrected bits form an event. -/
def eventWeight (weight : ℕ → R) (w : ℕ) (event : List Bool → Prop) [DecidablePred event] : R :=
  ∑ p ∈ outcomePairs w with event (correctedPair w p.1 p.2), weight p.1 * weight p.2

/-- The total weight of the pairs that are corrected to `bits`. -/
def pairWeight (weight : ℕ → R) (w : ℕ) (bits : List Bool) : R :=
  eventWeight weight w (· = bits)

/-- The weight of an outcome whose bits are independent: `f i` weighs the `i`-th bit from below. -/
def independentWeight (f : ℕ → Bool → R) (w v : ℕ) : R := ∏ i ∈ Finset.range w, f i (v.testBit i)

/-! ## Correction -/

theorem correctedPair_eq_map (w a b : ℕ) :
    correctedPair w a b =
      ((List.range w).reverse.filter fun i => a.testBit i != b.testBit i).map a.testBit := by
  rw [correctedPair, bitsOf_natCast, bitsOf_natCast]
  exact filterMap_keptBit _ _ _

theorem length_correctedPair_le (w a b : ℕ) : (correctedPair w a b).length ≤ w := by
  rw [correctedPair_eq_map, List.length_map]
  refine (List.length_filter_le _ _).trans ?_
  simp

@[simp] theorem correctedPair_self (w a : ℕ) : correctedPair w a a = [] := by
  simp [correctedPair_eq_map]

/-- The rolls in the other order keep the opposite bits. -/
theorem correctedPair_swap (w a b : ℕ) : correctedPair w b a = (correctedPair w a b).map (!·) := by
  rw [correctedPair_eq_map, correctedPair_eq_map, List.map_map]
  have hfilter : (fun i => b.testBit i != a.testBit i) = fun i => a.testBit i != b.testBit i := by
    funext i
    exact bne_comm
  rw [hfilter]
  refine List.map_congr_left fun i hi => ?_
  have hne := (List.mem_filter.mp hi).2
  cases ha : a.testBit i <;> cases hb : b.testBit i <;> simp_all

/-- The lowest bits come last. -/
theorem correctedPair_bit (w a b : ℕ) (x y : Bool) :
    correctedPair (w + 1) (Nat.bit x a) (Nat.bit y b) =
      correctedPair w a b ++ (keptBit (x, y)).toList := by
  simp only [correctedPair_eq_map, List.range_succ_eq_map, List.reverse_cons, ← List.map_reverse,
    List.filter_append, List.map_append, List.filter_map, List.map_map, Function.comp_def,
    Nat.succ_eq_add_one, Nat.testBit_bit_succ]
  congr 1
  simp only [List.filter_cons, List.filter_nil, Nat.testBit_bit_zero]
  cases x <;> cases y <;> simp [keptBit]

/-- Of a number and the one with all bits turned over, every bit is kept. -/
theorem correctedPair_number_not (bits : List Bool) (n : ℕ) :
    correctedPair (n + bits.length) (number (List.replicate n false ++ bits))
      (number (List.replicate n false ++ bits.map (!·))) = bits := by
  have hwrite {l : List Bool} (hl : l.length = n + bits.length) :
      bitsOf (n + bits.length) (number l) = l := by
    rw [bitsOf_natCast]
    apply number_inj
    · rw [length_bitsDown, hl]
    · rw [number_bitsDown, ← hl, Nat.mod_eq_of_lt (number_lt l)]
  have hkept : ∀ l : List Bool, (l.zip (l.map (!·))).filterMap keptBit = l := by
    intro l
    induction l with
    | nil => rfl
    | cons b l ih => cases b <;> simpa [keptBit] using ih
  have hzeros : ((List.replicate n false).zip (List.replicate n false)).filterMap keptBit = [] := by
    simp [keptBit]
  rw [correctedPair, hwrite (by simp), hwrite (by simp), List.zip_append (by simp),
    List.filterMap_append, hzeros, hkept, List.nil_append]

/-! ## The rolls change places -/

theorem mem_outcomePairs {w : ℕ} {p : ℕ × ℕ} : p ∈ outcomePairs w ↔ p.1 < 2 ^ w ∧ p.2 < 2 ^ w := by
  simp [outcomePairs]

theorem eventWeight_congr (weight : ℕ → R) (w : ℕ) {event event' : List Bool → Prop}
    [DecidablePred event] [DecidablePred event'] (h : ∀ bits, event bits ↔ event' bits) :
    eventWeight weight w event = eventWeight weight w event' := by
  simp only [eventWeight, h]

/-- **Turning all bits over changes no total.** -/
theorem eventWeight_map_not (weight : ℕ → R) (w : ℕ) (event : List Bool → Prop)
    [DecidablePred event] :
    eventWeight weight w (fun bits => event (bits.map (!·))) = eventWeight weight w event := by
  refine Finset.sum_equiv (Equiv.prodComm ℕ ℕ) (fun p => ?_) fun p _ => mul_comm _ _
  simp only [Finset.mem_filter, mem_outcomePairs, Equiv.prodComm_apply, Prod.fst_swap, Prod.snd_swap,
    correctedPair_swap w p.1 p.2, and_comm]

theorem pairWeight_map_not (weight : ℕ → R) (w : ℕ) (bits : List Bool) :
    pairWeight weight w (bits.map (!·)) = pairWeight weight w bits := by
  rw [pairWeight, pairWeight, ← eventWeight_map_not]
  refine eventWeight_congr weight w fun s => ?_
  exact (List.map_injective_iff.mpr Bool.involutive_not.injective).eq_iff

theorem pairWeight_eq_zero {w : ℕ} {bits : List Bool} (h : w < bits.length) (weight : ℕ → R) :
    pairWeight weight w bits = 0 := by
  refine Finset.sum_eq_zero fun p hp => ?_
  have hbits := (Finset.mem_filter.mp hp).2
  have hle := length_correctedPair_le w p.1 p.2
  rw [hbits] at hle
  omega

/-! ## Independent bits -/

theorem sum_range_two_mul (m : ℕ) (g : ℕ → R) :
    ∑ n ∈ Finset.range (2 * m), g n = ∑ n ∈ Finset.range m, (g (Nat.bit true n) + g (Nat.bit false n)) := by
  induction m with
  | zero => rfl
  | succ m ih =>
    rw [Finset.sum_range_succ, ← ih, Nat.mul_succ, Finset.sum_range_succ, Finset.sum_range_succ]
    simp only [Nat.bit_val, Bool.toNat_true, Bool.toNat_false, Nat.add_zero]
    rw [add_assoc, add_comm (g (2 * m))]

/-- The lowest bits of the two rolls are taken apart from the others. -/
theorem sum_outcomePairs_succ (w : ℕ) (g : ℕ → ℕ → R) :
    ∑ p ∈ outcomePairs (w + 1), g p.1 p.2 = ∑ p ∈ outcomePairs w,
      (g (Nat.bit true p.1) (Nat.bit true p.2) + g (Nat.bit true p.1) (Nat.bit false p.2) +
        (g (Nat.bit false p.1) (Nat.bit true p.2) + g (Nat.bit false p.1) (Nat.bit false p.2))) := by
  simp only [outcomePairs, Finset.sum_product, Nat.pow_succ', sum_range_two_mul,
    Finset.sum_add_distrib]
  exact add_add_add_comm _ _ _ _

theorem independentWeight_bit (f : ℕ → Bool → R) (w n : ℕ) (b : Bool) :
    independentWeight f (w + 1) (Nat.bit b n) =
      independentWeight (fun i => f (i + 1)) w n * f 0 b := by
  simp only [independentWeight, Finset.prod_range_succ', Nat.testBit_bit_zero, Nat.testBit_bit_succ]

theorem pairWeight_eq (weight : ℕ → R) (w : ℕ) (bits : List Bool) :
    pairWeight weight w bits = ∑ p ∈ outcomePairs w,
      if correctedPair w p.1 p.2 = bits then weight p.1 * weight p.2 else 0 := by
  rw [pairWeight, eventWeight, Finset.sum_filter]

/-- **One more independent bit.** Where the two rolls agree in it, it yields nothing; else it is the last
of the corrected bits. -/
theorem pairWeight_succ (f : ℕ → Bool → R) (w : ℕ) (bits : List Bool) :
    pairWeight (independentWeight f (w + 1)) (w + 1) bits =
      (f 0 true * f 0 true + f 0 false * f 0 false) *
          pairWeight (independentWeight (fun i => f (i + 1)) w) w bits +
        if bits = [] then 0 else f 0 true * f 0 false *
          pairWeight (independentWeight (fun i => f (i + 1)) w) w bits.dropLast := by
  rw [pairWeight_eq, sum_outcomePairs_succ w fun a b =>
    if correctedPair (w + 1) a b = bits then
      independentWeight f (w + 1) a * independentWeight f (w + 1) b else 0]
  simp only [correctedPair_bit, independentWeight_bit]
  cases bits using List.reverseRecOn with
  | nil =>
    simp [keptBit, pairWeight_eq, Finset.mul_sum]
    refine Finset.sum_congr rfl fun p _ => ?_
    split <;> ring
  | append_singleton bits b =>
    simp [keptBit, pairWeight_eq, Finset.mul_sum, ← Finset.sum_add_distrib]
    refine Finset.sum_congr rfl fun p _ => ?_
    cases b <;> simp <;> split <;> split <;> ring

/-- **Independent bits stay unbiased together**: the total depends on the number of the bits alone. -/
theorem pairWeight_independent (f : ℕ → Bool → R) (w : ℕ) {bits bits' : List Bool}
    (h : bits.length = bits'.length) :
    pairWeight (independentWeight f w) w bits = pairWeight (independentWeight f w) w bits' := by
  induction w generalizing f bits bits' with
  | zero =>
    have hzero (l : List Bool) : ([] = l) ↔ l.length = 0 := by
      rw [eq_comm, List.length_eq_zero_iff]
    simp [pairWeight_eq, outcomePairs, correctedPair, hzero, h]
  | succ w ih =>
    have hlast : bits.dropLast.length = bits'.dropLast.length := by simp [h]
    rw [pairWeight_succ, pairWeight_succ, ih _ h, ih _ hlast]
    simp only [← List.length_eq_zero_iff, h]

/-! ## Loaded dice -/

/-- The weights of a die that shows only `a` and `b`. -/
def twoFaced (a b v : ℕ) : R := if v = a ∨ v = b then 1 else 0

theorem map_not_ne_self {bits : List Bool} (h : bits ≠ []) : bits.map (!·) ≠ bits := by
  cases bits with
  | nil => exact absurd rfl h
  | cons b bits => simp

/-- Such a die yields no other bits than those of its two faces, and their opposites. -/
theorem pairWeight_twoFaced {w a b : ℕ} (ha : a < 2 ^ w) (hb : b < 2 ^ w) (hab : a ≠ b)
    {bits : List Bool} (hbits : bits ≠ []) :
    pairWeight (twoFaced a b : ℕ → R) w bits =
      (if correctedPair w a b = bits then 1 else 0) +
        if (correctedPair w a b).map (!·) = bits then 1 else 0 := by
  have hsub : ({a, b} ×ˢ {a, b} : Finset (ℕ × ℕ)) ⊆ outcomePairs w := by
    intro p hp
    simp only [Finset.mem_product, Finset.mem_insert, Finset.mem_singleton] at hp
    rw [mem_outcomePairs]
    rcases hp with ⟨h1 | h1, h2 | h2⟩ <;> simp [h1, h2, ha, hb]
  have hzero : ∀ p ∈ outcomePairs w, p ∉ ({a, b} ×ˢ {a, b} : Finset (ℕ × ℕ)) →
      (if correctedPair w p.1 p.2 = bits then (twoFaced a b p.1 * twoFaced a b p.2 : R) else 0) = 0 := by
    intro p _ hp
    simp only [Finset.mem_product, Finset.mem_insert, Finset.mem_singleton, not_and_or] at hp
    rcases hp with hp | hp <;> simp [twoFaced, hp]
  rw [pairWeight_eq, ← Finset.sum_subset hsub hzero, Finset.sum_product, Finset.sum_pair hab,
    Finset.sum_pair hab, Finset.sum_pair hab]
  simp [twoFaced, Ne.symm hbits, correctedPair_swap w a b]

/-- Bits of one length that have the same weight for every die are the same bits, or opposite ones. -/
theorem eq_or_eq_map_not [Nontrivial R] {w : ℕ} {bits bits' : List Bool}
    (hlen : bits.length = bits'.length) (hle : bits.length ≤ w)
    (h : ∀ weight : ℕ → R, pairWeight weight w bits = pairWeight weight w bits') :
    bits' = bits ∨ bits' = bits.map (!·) := by
  by_contra hne
  rw [not_or] at hne
  obtain ⟨hne, hopposite⟩ := hne
  have hbits : bits ≠ [] := by
    rintro rfl
    exact hne (List.eq_nil_of_length_eq_zero hlen.symm)
  have hbits' : bits' ≠ [] := by
    rw [← List.length_pos_iff, ← hlen]
    exact List.length_pos_iff.mpr hbits
  -- the two faces: the bits behind zeros, and their opposites behind the same zeros
  obtain ⟨n, rfl⟩ : ∃ n, w = n + bits.length := ⟨w - bits.length, by omega⟩
  have hkept := correctedPair_number_not bits n
  set a := number (List.replicate n false ++ bits) with ha
  set b := number (List.replicate n false ++ bits.map (!·)) with hb
  have halt : a < 2 ^ (n + bits.length) := by simpa [ha] using number_lt (List.replicate n false ++ bits)
  have hblt : b < 2 ^ (n + bits.length) := by
    simpa [hb] using number_lt (List.replicate n false ++ bits.map (!·))
  have hab : a ≠ b := by
    intro hab
    rw [hab, correctedPair_self] at hkept
    exact hbits hkept.symm
  have htotal := h (twoFaced a b)
  rw [pairWeight_twoFaced halt hblt hab hbits, pairWeight_twoFaced halt hblt hab hbits', hkept] at htotal
  simp [Ne.symm hne, Ne.symm hopposite, map_not_ne_self hbits] at htotal

/-! ## Sessions -/

/-- A session that is begun again shows its settings. -/
theorem Collector.settings_eq {c c' : Collector} (h : c.reset = c'.reset) :
    c.source = c'.source ∧ c.target = c'.target ∧ c.correction = c'.correction := by
  have hsource : c.reset.source = c'.reset.source := by rw [h]
  have htarget : c.reset.target = c'.reset.target := by rw [h]
  have hmode : c.reset.correction = c'.reset.correction := by rw [h]
  exact ⟨hsource, htarget, hmode⟩

/-- The outcome that completes a pair brings the corrected bits of the two, up to the target. -/
theorem Collector.WellFormed.add_partner {c : Collector} (h : c.WellFormed) {first : ℕ}
    (hpending : c.pending = some first) {n : ℤ} (hn : c.source.Gives n) :
    ∃ held k c', c.pool.Holds held ∧ Step.run (add (.outcome (.integer n))) c = (.ok k, c') ∧
      c'.pool.Holds ((held ++ correctedPair c.source.bits first (c.source.counted n)).take c.target) := by
  obtain ⟨hc, hcorr⟩ := h.waiting (by simp [hpending])
  obtain ⟨vs, hholds⟩ := h.holds hc
  have hfirst : unpaired vs = some first := by
    have hwaits := hholds.pending_eq
    simpa [hcorr, hc, hpending, eq_comm] using hwaits
  obtain ⟨k, hk, hnext, -, hsame⟩ :=
    hholds.add (o := .outcome (.integer n)) hc rfl hn.value_eq
  have hpool := hnext.pool_holds
  obtain ⟨hsource, htarget, hmode⟩ := settings_eq hsame
  rw [hsource, htarget, hmode, Source.stream_concat, Source.brought, hcorr, if_pos rfl, hfirst] at hpool
  refine ⟨_, k, _, hholds.pool_holds_stream hc, Prod.ext hk rfl, ?_⟩
  rw [hcorr, Source.correctedPair_eq]
  simpa using hpool

/-- **The corrected bits of a die are unbiased one by one.** Bits of one length have the same weight for
every die just if they are the same or opposite bits, or too many; so for every die, and however many
bits a pair yields, each of them is zero with the weight with which it is one. If the bits of a roll are
independent, the corrected ones are unbiased together. These are the bits that a session is brought by
the second outcome of a pair. -/
theorem correctedPair_unbiased_bitwise [Nontrivial R] :
    (∀ (w : ℕ) (bits bits' : List Bool), bits.length = bits'.length →
      ((∀ weight : ℕ → R, pairWeight weight w bits = pairWeight weight w bits') ↔
        bits' = bits ∨ bits' = bits.map (!·) ∨ w < bits.length)) ∧
    (∀ (weight : ℕ → R) (w n i : ℕ),
      eventWeight weight w (fun bits => bits.length = n ∧ bits[i]? = some false) =
        eventWeight weight w fun bits => bits.length = n ∧ bits[i]? = some true) ∧
    (∀ (f : ℕ → Bool → R) (w : ℕ) (bits bits' : List Bool), bits.length = bits'.length →
      pairWeight (independentWeight f w) w bits = pairWeight (independentWeight f w) w bits') ∧
    ∀ (source : Source) (target : ℤ) (mode : Option Bool) (fresh : Collector)
      (actions : List Collector.Action) (first : ℕ) (n : ℤ),
      Collector.create source target mode = .ok fresh →
      (fresh.performAll actions).pending = some first → source.Gives n →
      ∃ held k c', (fresh.performAll actions).pool.Holds held ∧
        Collector.Step.run (Collector.add (.outcome (.integer n))) (fresh.performAll actions) = (.ok k, c') ∧
        c'.pool.Holds
          ((held ++ correctedPair source.bits first (source.counted n)).take target.toNat) := by
  refine ⟨fun w bits bits' hlen => ⟨fun h => ?_, ?_⟩, fun weight w n i => ?_, fun f w bits bits' hlen =>
    pairWeight_independent f w hlen, fun source target mode fresh actions first n hfresh hpending hn => ?_⟩
  · by_cases hle : bits.length ≤ w
    · rcases eq_or_eq_map_not hlen hle h with h | h
      · exact .inl h
      · exact .inr (.inl h)
    · exact .inr (.inr (Nat.not_le.mp hle))
  · rintro (rfl | rfl | hlt) weight
    · rfl
    · rw [pairWeight_map_not]
    · rw [pairWeight_eq_zero hlt, pairWeight_eq_zero (hlen ▸ hlt)]
  · rw [← eventWeight_map_not]
    refine eventWeight_congr weight w fun bits => ?_
    simp
  · obtain ⟨hpos, htarget, hsource, hreset⟩ := Collector.create_eq_ok hfresh
    have hwell : fresh.WellFormed := hreset ▸ .collected (.fresh hpos)
    obtain ⟨h, hsame⟩ := hwell.performAll actions
    obtain ⟨hsource', htarget', -⟩ := Collector.settings_eq hsame
    rw [hsource] at hsource'
    rw [← htarget, Int.toNat_natCast, ← htarget', ← hsource']
    exact h.add_partner hpending (hsource'.symm ▸ hn)

/-- A die that shows its lowest and its highest face only, and a session that waits for the second
roll. -/
theorem correctedPair_unbiased_bitwise_d4 :
    let fresh : Collector := ⟨.d4, 4, true, .empty, none, false, 0, 0, false⟩
    let c := fresh.performAll [.add (.outcome (.integer 1))]
    [false, false].length = [true, true].length ∧
    pairWeight (twoFaced 0 3 : ℕ → ℕ) 2 [false, false] =
      pairWeight (twoFaced 0 3 : ℕ → ℕ) 2 [true, true] ∧
    Collector.create .d4 4 none = .ok fresh ∧ c.pending = some 0 ∧ Source.d4.Gives 4 ∧
    ∃ held k c', c.pool.Holds held ∧
      Collector.Step.run (Collector.add (.outcome (.integer 4))) c = (.ok k, c') ∧
      c'.pool.Holds ((held ++ [false, false]).take 4) := by
  intro fresh c
  obtain ⟨hpairs, -, -, hsession⟩ := correctedPair_unbiased_bitwise (R := ℕ)
  have hopposite := (hpairs 2 [false, false] [true, true] rfl).mpr (.inr (.inl rfl))
  have hfresh : Collector.create .d4 4 none = .ok fresh := rfl
  have hpending : c.pending = some 0 := by decide
  exact ⟨rfl, hopposite _, hfresh, hpending, by decide,
    hsession .d4 4 none fresh [.add (.outcome (.integer 1))] 0 4 hfresh hpending (by decide)⟩

/-- The weights of the values of a die with the faces 1, 1 and 4. -/
def loadedDie (v : ℕ) : ℕ := [2, 0, 0, 1].getD v 0

/-- Such a die yields two zeros, but never a zero and a one. -/
theorem pairWeight_loadedDie : 1 ≤ 2 ∧ [false, false].length = [false, true].length ∧
    pairWeight loadedDie 2 [false, false] = 2 ∧ pairWeight loadedDie 2 [false, true] = 0 := by
  decide

end Airgap.Entropy
