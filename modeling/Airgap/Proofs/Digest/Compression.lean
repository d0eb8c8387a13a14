import Airgap.Proofs.Digest.Masked
import Airgap.Proofs.Digest.Rounds

/-!
# Three forms of each compression function

A state is a list of words for every algorithm, so that the functions on machine words, on numbers under
masks and on published words can be told side by side.

* `Algorithm.words`: the words of a state; `exists_words_eq`, `exists_numbers_eq`: all lists of the right
  length are such, and all lists of numbers that have room in words.
* `Algorithm.published_words`, `Masked.compress_words`: both other forms follow the function that is run.
* `Masked.pack`: the bytes of words, none if one of them has too many bits; `Masked.digest_eq`: after all
  blocks of a message it is the digest.
* `compress_masked`: the three forms agree, on all states and blocks.
-/

namespace Airgap.Digest

namespace Algorithm

/-- Bits in a word. -/
def wordBits : Algorithm → ℕ
  | .sha256 | .ripemd160 => 32
  | .sha512 => 64

/-- Words in a state. -/
def stateWords : Algorithm → ℕ
  | .sha256 | .sha512 => 8
  | .ripemd160 => 5

/-- The words of a state. -/
def words : (a : Algorithm) → a.construction.State → List (BitVec a.wordBits)
  | .sha256, s => (Sha2.State.map UInt32.toBitVec s).words
  | .sha512, s => (Sha2.State.map UInt64.toBitVec s).words
  | .ripemd160, s => (Ripemd160.State.chain s).words

/-- The published function on the words of a state; none if there are too many of them or too few. -/
noncomputable def published : (a : Algorithm) → List (BitVec a.wordBits) → Bytes →
    Option (List (BitVec a.wordBits))
  | .sha256, h, block =>
    (Sha2.State.ofWords? h).map fun h => (Fips180.compress Fips180.sha256 h block).words
  | .sha512, h, block =>
    (Sha2.State.ofWords? h).map fun h => (Fips180.compress Fips180.sha512 h block).words
  | .ripemd160, h, block =>
    (PublishedRipemd.Chain.ofWords? h).map fun h => (PublishedRipemd.compress h block).words

variable (a : Algorithm)

theorem length_words (s : a.construction.State) : (a.words s).length = a.stateWords := by
  cases a <;> rfl

theorem exists_words_eq {ws : List (BitVec a.wordBits)} (h : ws.length = a.stateWords) :
    ∃ s, a.words s = ws := by
  cases a with
  | sha256 =>
    match ws, h with
    | [a, b, c, d, e, f, g, h], _ =>
      exact ⟨(⟨⟨a⟩, ⟨b⟩, ⟨c⟩, ⟨d⟩, ⟨e⟩, ⟨f⟩, ⟨g⟩, ⟨h⟩⟩ : Sha2.State UInt32), rfl⟩
  | sha512 =>
    match ws, h with
    | [a, b, c, d, e, f, g, h], _ =>
      exact ⟨(⟨⟨a⟩, ⟨b⟩, ⟨c⟩, ⟨d⟩, ⟨e⟩, ⟨f⟩, ⟨g⟩, ⟨h⟩⟩ : Sha2.State UInt64), rfl⟩
  | ripemd160 =>
    match ws, h with
    | [a, b, c, d, e], _ => exact ⟨(⟨⟨a⟩, ⟨b⟩, ⟨c⟩, ⟨d⟩, ⟨e⟩⟩ : Ripemd160.State), rfl⟩

/-- The published function follows the one that is run. -/
theorem published_words (s : a.construction.State) (block : Bytes) :
    a.published (a.words s) block = some (a.words (a.construction.compress s block)) := by
  cases a with
  | sha256 =>
    have h := Sha2.computes_sha256.compress_eq s block
    exact congrArg (some ∘ Sha2.State.words) h.symm
  | sha512 =>
    have h := Sha2.computes_sha512.compress_eq s block
    exact congrArg (some ∘ Sha2.State.words) h.symm
  | ripemd160 =>
    have h := Ripemd160.compress_chain s block
    exact congrArg (some ∘ PublishedRipemd.Chain.words) h.symm

/-- The bytes of a state are those of its words. -/
theorem output_eq (s : a.construction.State) :
    a.construction.output s =
      (a.words s).flatMap fun w => a.construction.order.write (a.wordBits / 8) w.toNat := by
  cases a <;> rfl

end Algorithm

/-! ## Words as numbers -/

theorem map_ofNat_map_toNat {b : ℕ} (ws : List (BitVec b)) :
    (ws.map BitVec.toNat).map (BitVec.ofNat b) = ws := by
  rw [List.map_map]
  refine (List.map_congr_left fun w _ => ?_).trans (List.map_id ws)
  rw [Function.comp_apply, BitVec.ofNat_toNat, BitVec.setWidth_eq, id]

theorem map_toNat_map_ofNat {b : ℕ} {ns : List ℕ} (h : ∀ n ∈ ns, n < 2 ^ b) :
    (ns.map (BitVec.ofNat b)).map BitVec.toNat = ns := by
  rw [List.map_map]
  refine (List.map_congr_left fun n hn => ?_).trans (List.map_id ns)
  exact Nat.mod_eq_of_lt (h n hn)

namespace Algorithm

/-- Numbers that have room in words are those of a state, if they are as many. -/
theorem exists_numbers_eq (a : Algorithm) {ns : List ℕ} (hlength : ns.length = a.stateWords)
    (hlt : ∀ n ∈ ns, n < 2 ^ a.wordBits) : ∃ s, (a.words s).map BitVec.toNat = ns := by
  obtain ⟨s, hs⟩ := a.exists_words_eq ((List.length_map (BitVec.ofNat a.wordBits)).trans hlength)
  exact ⟨s, by rw [hs, map_toNat_map_ofNat hlt]⟩

end Algorithm

/-! ## Under masks -/

namespace Masked

/-- The numbers of a state after one more block. -/
def compress : Algorithm → List ℕ → Bytes → Option (List ℕ)
  | .sha256 => sha256.compress
  | .sha512 => sha512.compress
  | .ripemd160 => compressLines

variable (a : Algorithm)

/-- The bytes of a state's numbers; none if a number has no room in a word. -/
def pack (state : List ℕ) : Option Bytes := do
  let fields ← state.mapM fun n =>
    if n < 2 ^ a.wordBits then some (a.construction.order.write (a.wordBits / 8) n) else none
  return fields.flatten

/-- The numbers of the initial state after blocks, as bytes. -/
def digest (blocks : List Bytes) : Option Bytes := do
  pack a (← blocks.foldlM (compress a) ((a.words a.construction.initial).map BitVec.toNat))

variable {a}

/-- The masked function follows the one that is run. -/
theorem compress_words (s : a.construction.State) {block : Bytes} (h : block.length = a.blockSize) :
    compress a ((a.words s).map BitVec.toNat) block =
      some ((a.words (a.construction.compress s block)).map BitVec.toNat) := by
  have hpublished := a.published_words s block
  cases a with
  | sha256 =>
    rw [← Option.some.inj hpublished]
    exact Member.masks_sha256.compress_toNat h (Sha2.State.map UInt32.toBitVec s)
  | sha512 =>
    rw [← Option.some.inj hpublished]
    exact Member.masks_sha512.compress_toNat h (Sha2.State.map UInt64.toBitVec s)
  | ripemd160 =>
    rw [← Option.some.inj hpublished]
    exact compressLines_toNat h (Ripemd160.State.chain s)

theorem pack_toNat (ws : List (BitVec a.wordBits)) :
    pack a (ws.map BitVec.toNat) =
      some (ws.flatMap fun w => a.construction.order.write (a.wordBits / 8) w.toNat) := by
  have hall : (ws.map BitVec.toNat).mapM (fun n =>
      if n < 2 ^ a.wordBits then some (a.construction.order.write (a.wordBits / 8) n) else none) =
        some (ws.map fun w => a.construction.order.write (a.wordBits / 8) w.toNat) := by
    induction ws with
    | nil => rfl
    | cons w ws ih => rw [List.map_cons, List.mapM_cons, ih, if_pos w.isLt]; rfl
  rw [pack, hall, List.flatMap_def]
  rfl

/-- **Packing does not fail** on the numbers of a state, and gives its bytes. -/
theorem pack_words (s : a.construction.State) :
    pack a ((a.words s).map BitVec.toNat) = some (a.construction.output s) := by
  rw [pack_toNat, a.output_eq]

/-- Block by block, the numbers are those of the state that is run. -/
theorem foldlM_compress {blocks : List Bytes} (h : ∀ block ∈ blocks, block.length = a.blockSize)
    (s : a.construction.State) :
    blocks.foldlM (compress a) ((a.words s).map BitVec.toNat) =
      some ((a.words (blocks.foldl a.construction.compress s)).map BitVec.toNat) := by
  induction blocks generalizing s with
  | nil => rfl
  | cons block blocks ih =>
    obtain ⟨hblock, hblocks⟩ := List.forall_mem_cons.mp h
    rw [List.foldlM_cons, compress_words s hblock]
    exact ih hblocks _

/-- **The masked functions give the digest of every message.** -/
theorem digest_eq (message : Bytes) :
    digest a (a.construction.paddedBlocks message) = some (hash a message).value := by
  rw [digest, foldlM_compress fun _ => Construction.length_of_mem_paddedBlocks]
  exact pack_words _

end Masked

/-- **Numbers under masks compute the published functions.** From numbers that have room in words and a
block of the right size, the masked function gives numbers that have room in words again; they are those
of the published words and of the machine words that are run, and can be packed. So the digest of every
message is packed in the end. -/
theorem compress_masked (a : Algorithm) :
    (∀ state : List ℕ, state.length = a.stateWords → (∀ n ∈ state, n < 2 ^ a.wordBits) →
      ∀ block : Bytes, block.length = a.blockSize →
        ∃ (s : a.construction.State) (next : List ℕ),
          (a.words s).map BitVec.toNat = state ∧
          Masked.compress a state block = some next ∧
          next.length = a.stateWords ∧ (∀ n ∈ next, n < 2 ^ a.wordBits) ∧
          a.published (state.map (BitVec.ofNat _)) block = some (next.map (BitVec.ofNat _)) ∧
          (a.words (a.construction.compress s block)).map BitVec.toNat = next ∧
          Masked.pack a next = some (a.construction.output (a.construction.compress s block))) ∧
    ∀ message : Bytes,
      Masked.digest a (a.construction.paddedBlocks message) = some (hash a message).value := by
  refine ⟨fun state hlength hlt block hblock => ?_, fun message => Masked.digest_eq message⟩
  obtain ⟨s, rfl⟩ := a.exists_numbers_eq hlength hlt
  refine ⟨s, (a.words (a.construction.compress s block)).map BitVec.toNat, rfl,
    Masked.compress_words s hblock, ?_, ?_, ?_, rfl, Masked.pack_words _⟩
  · rw [List.length_map, a.length_words]
  · intro n hn
    obtain ⟨w, -, rfl⟩ := List.mem_map.mp hn
    exact w.isLt
  · rw [map_ofNat_map_toNat, map_ofNat_map_toNat, a.published_words]

/-- The only block of the message `abc`: the published function has the numbers that were found under
masks, and they are packed. -/
theorem compress_masked_abc :
    let state := [0x6A09E667, 0xBB67AE85, 0x3C6EF372, 0xA54FF53A,
      0x510E527F, 0x9B05688C, 0x1F83D9AB, 0x5BE0CD19]
    let block : Bytes := [0x61, 0x62, 0x63, 0x80] ++ List.replicate 59 0 ++ [0x18]
    let next := [0xBA7816BF, 0x8F01CFEA, 0x414140DE, 0x5DAE2223,
      0xB00361A3, 0x96177A9C, 0xB410FF61, 0xF20015AD]
    (state.length = Algorithm.sha256.stateWords ∧
      (∀ n ∈ state, n < 2 ^ Algorithm.sha256.wordBits) ∧
      block.length = Algorithm.sha256.blockSize) ∧
    Masked.compress .sha256 state block = some next ∧
    (∀ n ∈ next, n < 2 ^ Algorithm.sha256.wordBits) ∧
    Algorithm.sha256.published (state.map (BitVec.ofNat _)) block =
      some (next.map (BitVec.ofNat _)) ∧
    Masked.pack .sha256 next = some (hash .sha256 [0x61, 0x62, 0x63]).value := by
  intro state block next
  have hlength : state.length = Algorithm.sha256.stateWords := rfl
  have hlt : ∀ n ∈ state, n < 2 ^ Algorithm.sha256.wordBits := by decide
  have hblock : block.length = Algorithm.sha256.blockSize := by decide
  have hnext : Masked.compress .sha256 state block = some next := by decide +kernel
  obtain ⟨hblocks, hmessages⟩ := compress_masked .sha256
  obtain ⟨s, result, -, hmasked, -, hbound, hpublished, -, -⟩ :=
    hblocks state hlength hlt block hblock
  obtain rfl : result = next := Option.some.inj (hmasked.symm.trans hnext)
  have hinitial :
      (Algorithm.sha256.words Algorithm.sha256.construction.initial).map BitVec.toNat = state := rfl
  have hone : Algorithm.sha256.construction.paddedBlocks [0x61, 0x62, 0x63] = [block] := by
    decide +kernel
  refine ⟨⟨hlength, hlt, hblock⟩, hmasked, hbound, hpublished, ?_⟩
  rw [← hmessages, hone, Masked.digest, hinitial, List.foldlM_cons, hmasked]
  rfl

end Airgap.Digest
