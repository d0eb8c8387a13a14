import Airgap.Digest.Algorithm
import Airgap.Proofs.Bytes
import Airgap.Proofs.Digest.Construction
import Mathlib.Order.Bounds.Defs

/-!
# The padded message

* `Construction.Padded`: the form of a padded message, said without how the zeros are counted;
  `padded_pad`: what follows a message brings it into this form.
* `pad_injective`, `eq_of_pad_suffix`: a padded message tells its message, and ends no other padded
  message.
* `Construction.logged`: the construction that keeps the blocks that it compresses;
  `compressed_eq`: for a message fed in pieces they are the blocks of the padded message.
* `digest_padded`: the three of them for every algorithm.
-/

namespace Airgap.Digest

/-! ## Numbers in a byte order -/

/-- The number that bytes in the given order write. -/
def ByteOrder.read : ByteOrder → Bytes → ℕ
  | .big, bs => Bytes.toNat bs
  | .little, bs => Bytes.toNat bs.reverse

theorem ByteOrder.read_write (o : ByteOrder) {w n : ℕ} (h : n < Bytes.capacity w) :
    o.read (o.write w n) = n := by
  cases o
  · exact Bytes.toNat_ofNat_of_lt h
  · rw [read, write, ← Bytes.reverse_ofNat, List.reverse_reverse]
    exact Bytes.toNat_ofNat_of_lt h

theorem ByteOrder.read_lt (o : ByteOrder) (bs : Bytes) : o.read bs < Bytes.capacity bs.length := by
  cases o
  · exact Bytes.toNat_lt bs
  · have h := Bytes.toNat_lt bs.reverse
    rwa [List.length_reverse] at h

namespace Construction

variable {c : Construction}

/-! ## The form of a padded message -/

/-- A message with a `0x80` byte behind it, zeros, and its bit length in the last field, in as few
whole blocks as can hold these. -/
structure Padded (c : Construction) (message padded : Bytes) : Prop where
  parts : ∃ zeros field, padded = message ++ 0x80 :: (List.replicate zeros 0 ++ field) ∧
    field.length = c.lengthSize ∧ c.order.read field = 8 * message.length
  isLeast : IsLeast {size | c.blockSize ∣ size ∧ message.length + 1 + c.lengthSize ≤ size}
    padded.length

/-- Whether the bit length of a message fits the length field. -/
def Fits (c : Construction) (message : Bytes) : Prop :=
  8 * message.length < Bytes.capacity c.lengthSize

theorem length_pad (message : Bytes) : (c.pad message).length =
    message.length + 1 + c.lengthSize +
      (c.blockSize - (message.length + 1 + c.lengthSize) % c.blockSize) % c.blockSize := by
  rw [pad, List.length_append, length_padding]
  omega

theorem blockSize_dvd_length_pad (message : Bytes) : c.blockSize ∣ (c.pad message).length := by
  have hlt := Nat.mod_lt (message.length + 1 + c.lengthSize) c.blockSize_pos
  rw [length_pad, Nat.dvd_iff_mod_eq_zero, Nat.add_mod_mod, ← Nat.mod_add_mod,
    Nat.add_sub_cancel' hlt.le, Nat.mod_self]

/-- The zeros stay below a block, so that no multiple of the block size lies in between. -/
theorem isLeast_length_pad (message : Bytes) :
    IsLeast {size | c.blockSize ∣ size ∧ message.length + 1 + c.lengthSize ≤ size}
      (c.pad message).length := by
  refine ⟨⟨blockSize_dvd_length_pad message, ?_⟩, fun size ⟨hdvd, hle⟩ => ?_⟩
  · rw [length_pad]
    exact Nat.le_add_right _ _
  · refine Nat.le_of_lt_add_of_dvd ?_ (blockSize_dvd_length_pad message) hdvd
    have hgap := Nat.mod_lt (c.blockSize - (message.length + 1 + c.lengthSize) % c.blockSize)
      c.blockSize_pos
    rw [length_pad]
    omega

/-- **What follows a message** brings it into the padded form. -/
theorem padded_pad {message : Bytes} (h : c.Fits message) : c.Padded message (c.pad message) :=
  ⟨⟨_, _, by rw [pad, padding, closing, List.cons_append], ByteOrder.length_write _ _ _,
    ByteOrder.read_write _ h⟩, isLeast_length_pad message⟩

/-! ## A padded message tells its message -/

theorem eq_of_replicate_append_marker {m n : ℕ} {xs ys : Bytes}
    (h : List.replicate m 0 ++ 0x80 :: xs = List.replicate n 0 ++ 0x80 :: ys) : xs = ys := by
  induction m generalizing n with
  | zero =>
    cases n with
    | zero => exact (List.cons.inj h).2
    | succ n => exact absurd (List.cons.inj h).1 (by decide)
  | succ m ih =>
    cases n with
    | zero => exact absurd (List.cons.inj h).1 (by decide)
    | succ n => exact ih (List.cons.inj h).2

/-- The zeros are followed, from the end, by the delimiter and then the message. -/
theorem pad_injective (c : Construction) : Function.Injective c.pad := by
  intro m m' h
  simp only [pad, padding, closing, ← List.append_assoc] at h
  -- the length fields have one width, so that what is in front of them agrees as well
  have hfront := congrArg List.reverse (List.append_inj' h (by simp)).1
  simp only [List.reverse_append, List.reverse_cons, List.reverse_replicate, List.append_assoc,
    List.singleton_append] at hfront
  exact List.reverse_inj.mp (eq_of_replicate_append_marker hfront)

theorem field_suffix_pad (c : Construction) (message : Bytes) :
    c.order.write c.lengthSize (8 * message.length) <:+ c.pad message := by
  rw [pad, padding, closing, ← List.append_assoc]
  exact List.suffix_append _ _

/-- **No padded message ends another.** The length fields at their ends are the same, hence the
lengths. -/
theorem eq_of_pad_suffix {m m' : Bytes} (hm : c.Fits m) (hm' : c.Fits m')
    (h : c.pad m <:+ c.pad m') : m = m' := by
  have hfield : c.order.write c.lengthSize (8 * m.length) =
      c.order.write c.lengthSize (8 * m'.length) := by
    have hlen : (c.order.write c.lengthSize (8 * m.length)).length =
        (c.order.write c.lengthSize (8 * m'.length)).length := by
      rw [ByteOrder.length_write, ByteOrder.length_write]
    -- both fields end the second message
    exact (List.suffix_of_suffix_length_le ((c.field_suffix_pad m).trans h) (c.field_suffix_pad m')
      hlen.le).eq_of_length hlen
  have hbits := congrArg c.order.read hfield
  rw [ByteOrder.read_write _ hm, ByteOrder.read_write _ hm'] at hbits
  have hlen : m.length = m'.length := by omega
  exact c.pad_injective (h.eq_of_length (by rw [length_pad, length_pad, hlen]))

/-! ## The blocks that are compressed -/

/-- The construction that also keeps the blocks that it compresses, in order. -/
def logged (c : Construction) : Construction where
  State := c.State × List Bytes
  initial := (c.initial, [])
  compress s block := (c.compress s.1 block, s.2 ++ [block])
  output s := c.output s.1
  blockSize := c.blockSize
  lengthSize := c.lengthSize
  order := c.order
  digestSize := c.digestSize
  lengthSize_lt := c.lengthSize_lt
  length_output s := c.length_output s.1

theorem foldl_logged (blocks : List Bytes) (s : c.logged.State) :
    blocks.foldl c.logged.compress s = (blocks.foldl c.compress s.1, s.2 ++ blocks) := by
  induction blocks generalizing s with
  | nil => exact congrArg (Prod.mk s.1) (List.append_nil s.2).symm
  | cons block blocks ih =>
    rw [List.foldl_cons, ih, List.foldl_cons]
    simp only [logged, List.append_assoc, List.singleton_append]

/-- The blocks of the padded message. -/
def paddedBlocks (c : Construction) (message : Bytes) : List Bytes :=
  Bytes.blocks c.blockSize ((c.pad message).length / c.blockSize) (c.pad message)

theorem flatten_paddedBlocks (message : Bytes) : (c.paddedBlocks message).flatten = c.pad message := by
  rw [paddedBlocks, Bytes.flatten_blocks, Nat.div_mul_cancel (blockSize_dvd_length_pad message),
    List.take_length]

theorem length_of_mem_paddedBlocks {message block : Bytes} (h : block ∈ c.paddedBlocks message) :
    block.length = c.blockSize :=
  Bytes.length_of_mem_blocks (Nat.div_mul_le_self _ _) h

theorem hash_eq (message : Bytes) :
    c.hash message = c.output ((c.paddedBlocks message).foldl c.compress c.initial) := rfl

theorem absorb_logged_pad (message : Bytes) :
    c.logged.absorb c.logged.initial (c.logged.pad message) =
      ((c.paddedBlocks message).foldl c.compress c.initial, c.paddedBlocks message) := by
  rw [absorb, foldl_logged]
  rfl

theorem hash_logged (message : Bytes) : c.logged.hash message = c.hash message := by
  rw [hash, absorb_logged_pad, hash_eq]
  rfl

end Construction

namespace Hasher

variable {c : Construction}

/-- The hasher that was fed the pieces one after the other. -/
def ofPieces (c : Construction) (pieces : List Bytes) : Hasher c := pieces.foldl update (empty c)

theorem fed_ofPieces (pieces : List Bytes) : (ofPieces c pieces).Fed pieces.flatten := by
  induction pieces using List.reverseRecOn with
  | nil => exact fed_empty
  | append_singleton pieces piece ih =>
    rw [ofPieces, List.foldl_append, List.flatten_concat]
    exact ih.update piece

/-- The blocks that are compressed while the pieces are fed and the digest is read. -/
def compressed (c : Construction) (pieces : List Bytes) : List Bytes :=
  let h := ofPieces c.logged pieces
  (c.logged.absorb h.state h.closed).2

/-- **However a message is cut, the blocks of the padded message are compressed.** -/
theorem compressed_eq (pieces : List Bytes) :
    compressed c pieces = c.paddedBlocks pieces.flatten := by
  -- hashers take any construction, so what holds of feeding and closing holds of the log
  rw [compressed, (fed_ofPieces pieces).absorb_closed, Construction.absorb_logged_pad]

end Hasher

/-! ## The algorithms -/

/-- The first bit length that does not fit the length field. -/
def Algorithm.bitLimit : Algorithm → ℕ
  | .sha256 | .ripemd160 => 2 ^ 64
  | .sha512 => 2 ^ 128

theorem Algorithm.fits_iff {a : Algorithm} {message : Bytes} :
    a.construction.Fits message ↔ 8 * message.length < a.bitLimit := by
  have hlimit : Bytes.capacity a.construction.lengthSize = a.bitLimit := by
    cases a <;> decide
  rw [Construction.Fits, hlimit]

/-- **A digest is folded over the padded message.** However a message is fed, the blocks that are
compressed make up the message with its padding, in the fewest blocks, and the digest is the state after
them. Different messages are padded differently, and neither form ends the other. -/
theorem digest_padded (a : Algorithm) :
    (∀ pieces : List Bytes, 8 * pieces.flatten.length < a.bitLimit →
      let c := a.construction
      let message := pieces.flatten
      let blocks := Hasher.compressed c pieces
      c.Padded message (c.pad message) ∧ blocks.flatten = c.pad message ∧
        (∀ block ∈ blocks, block.length = a.blockSize) ∧
        (Hasher.ofPieces c.logged pieces).digest = (Hasher.ofPieces c pieces).digest ∧
        (Hasher.ofPieces c pieces).digest = (hash a message).value ∧
        (hash a message).value = c.output (blocks.foldl c.compress c.initial) ∧
        (hash a message).value.length = a.digestSize) ∧
    Function.Injective a.construction.pad ∧
    ∀ m m' : Bytes, 8 * m.length < a.bitLimit → 8 * m'.length < a.bitLimit → m ≠ m' →
      ¬ a.construction.pad m <:+ a.construction.pad m' := by
  refine ⟨fun pieces hfits => ?_, a.construction.pad_injective, fun m m' hm hm' hne hsuffix => ?_⟩
  · have hfed := (Hasher.fed_ofPieces (c := a.construction) pieces).digest_eq
    intro c message blocks
    have hblocks : blocks = c.paddedBlocks message := Hasher.compressed_eq pieces
    refine ⟨Construction.padded_pad (Algorithm.fits_iff.mpr hfits), ?_, fun block hb => ?_, ?_, hfed,
      ?_, (hash a message).length_value⟩
    · rw [hblocks, Construction.flatten_paddedBlocks]
    · rw [hblocks] at hb
      exact Construction.length_of_mem_paddedBlocks hb
    · rw [hfed, (Hasher.fed_ofPieces pieces).digest_eq, Construction.hash_logged]
    · rw [hblocks]
      exact Construction.hash_eq message
  · exact hne (Construction.eq_of_pad_suffix (Algorithm.fits_iff.mpr hm)
      (Algorithm.fits_iff.mpr hm') hsuffix)

/-- Two pieces that leave no room for the length behind the delimiter, and a message that ends as the
empty one but for its length. -/
theorem digest_padded_noRoom :
    let pieces := [List.replicate 50 1, List.replicate 6 2]
    (8 * pieces.flatten.length < Algorithm.ripemd160.bitLimit ∧
      (Hasher.compressed ripemd160 pieces).flatten = ripemd160.pad pieces.flatten ∧
      (ripemd160.pad pieces.flatten).length = 128 ∧
      (Hasher.ofPieces ripemd160 pieces).digest = (hash .ripemd160 pieces.flatten).value) ∧
    8 * ([] : Bytes).length < Algorithm.sha256.bitLimit ∧
    8 * (0x80 :: List.replicate 63 0 : Bytes).length < Algorithm.sha256.bitLimit ∧
    ([] : Bytes) ≠ 0x80 :: List.replicate 63 0 ∧
    ¬ sha256.pad [] <:+ sha256.pad (0x80 :: List.replicate 63 0) := by
  intro pieces
  have hfits : 8 * pieces.flatten.length < Algorithm.ripemd160.bitLimit := by decide
  obtain ⟨-, hblocks, -, -, hdigest, -⟩ := (digest_padded .ripemd160).1 pieces hfits
  have hempty : 8 * ([] : Bytes).length < Algorithm.sha256.bitLimit := by decide
  have hblock : 8 * (0x80 :: List.replicate 63 0 : Bytes).length < Algorithm.sha256.bitLimit := by
    decide
  have hlength : (ripemd160.pad pieces.flatten).length = 128 := by
    set_option maxRecDepth 20000 in decide
  exact ⟨⟨hfits, hblocks, hlength, hdigest⟩, hempty, hblock, by decide,
    (digest_padded .sha256).2.2 [] _ hempty hblock (by decide)⟩

end Airgap.Digest
