import Airgap.Digest.Hmacs
import Airgap.Proofs.Digest.Hashers
import Airgap.Proofs.Digest.Hmac

/-!
# Codes that share a memory do not share their messages

* `Hashers.Keeps`: a buffer that no hasher uses; making, feeding and reading hashers leaves it alone, and
  what is done to it leaves the hashers alone.
* `Hashers.Holds.holdKey`, `Hashers.Holds.nest`, `Hashers.Holds.read`: how a code is begun and read.
* `Hmacs.Holds`: every code has an inner hasher of its own, and its hashers hold its key and message.
  `Hmacs.Holds.perform` is one request, `Hmacs.Holds.answers_eq` a whole sequence of them.
* `Hmacs.answers_formula`: the codes answer as the formula does.
-/

namespace Airgap.Digest

/-! ## Hashers and other buffers -/

namespace Hashers

variable {c : Construction} {b : Hashers c} {chunks : List (List Bytes)}

/-- A buffer of this content that no hasher uses. -/
structure Keeps (b : Hashers c) (address : Nat) (content : Bytes) : Prop where
  lt : address < b.memory.size
  unused : ∀ {i : Nat} {p : Placed c}, b.placed[i]? = some p → p.address ≠ address
  read_eq : b.memory.read address = content

namespace Keeps

variable {address : Nat} {content : Bytes}

theorem hold (hk : b.Keeps address content) (other : Bytes) :
    (b.hold other).2.Keeps address content := by
  refine ⟨?_, hk.unused, ?_⟩
  · rw [Hashers.hold, Memory.size_allocate]
    exact Nat.lt_succ_of_lt hk.lt
  · rw [Hashers.hold, Memory.read_allocate_of_lt hk.lt, hk.read_eq]

theorem edit (hk : b.Keeps address content) (f : Bytes → Bytes) :
    (b.edit address f).Keeps address (f content) := by
  refine ⟨?_, hk.unused, ?_⟩
  · rw [Hashers.edit, Memory.size_write]
    exact hk.lt
  · rw [Hashers.edit, Memory.read_write hk.lt, hk.read_eq]

theorem edit_of_ne (hk : b.Keeps address content) {other : Nat} (hne : address ≠ other)
    (f : Bytes → Bytes) : (b.edit other f).Keeps address content := by
  refine ⟨?_, hk.unused, ?_⟩
  · rw [Hashers.edit, Memory.size_write]
    exact hk.lt
  · rw [Hashers.edit, Memory.read_write_of_ne hne, hk.read_eq]

/-- No command to the hashers touches it. -/
theorem perform (hk : b.Keeps address content) (h : b.Holds chunks) (command : Command) :
    (b.perform command).2.Keeps address content := by
  have hm := h.moves command
  generalize (b.perform command).2 = b', command.record chunks = chunks' at hm ⊢
  have hlt := hk.lt
  cases hm with
  | stays hf =>
    refine ⟨Nat.lt_of_lt_of_le hlt hf.size_le, hk.unused, ?_⟩
    rw [hf.read_eq address hlt (Option.some_ne_none _).symm, hk.read_eq]
  | adds hf hnew =>
    refine ⟨Nat.lt_of_lt_of_le hlt hf.size_le, fun hp => ?_, ?_⟩
    · rcases placed_add hp with hp | ⟨-, rfl⟩
      · exact hk.unused hp
      · omega
    · rw [add, hf.read_eq address hlt (Option.some_ne_none _).symm, hk.read_eq]
  | puts _ hp hf hown =>
    have hne := hk.unused hp
    refine ⟨Nat.lt_of_lt_of_le hlt hf.size_le, fun hq => ?_, ?_⟩
    · rcases placed_put hq with ⟨-, hq⟩ | ⟨-, rfl⟩
      · exact hk.unused hq
      · omega
    · rw [put, hf.read_eq address hlt fun he => hne (Option.some.inj he), hk.read_eq]

end Keeps

namespace Holds

theorem hold (h : b.Holds chunks) (content : Bytes) : (b.hold content).2.Holds chunks :=
  h.memory ((Memory.Frame.refl _ _).allocate content)

theorem keeps_hold (h : b.Holds chunks) (content : Bytes) :
    (b.hold content).2.Keeps (b.hold content).1 content := by
  refine ⟨?_, fun hp => Nat.ne_of_lt (h.bound hp), Memory.read_allocate _ _⟩
  rw [Hashers.hold, Memory.size_allocate]
  exact Nat.lt_succ_self _

/-- What is done to a buffer that no hasher uses leaves the hashers alone. -/
theorem edit (h : b.Holds chunks) {address : Nat} {content : Bytes} (hk : b.Keeps address content)
    (f : Bytes → Bytes) : (b.edit address f).Holds chunks := by
  have hframe : b.memory.Frame (b.edit address f).memory (some address) :=
    (Memory.Frame.refl _ _).write (.inr rfl) _
  refine ⟨h.length_eq, fun hp hcs => ?_, fun hp => Nat.lt_of_lt_of_le (h.bound hp) hframe.size_le,
    h.distinct⟩
  rw [h.view_eq hp hframe fun he => hk.unused hp (Option.some.inj he).symm]
  exact h.fed hp hcs

theorem make_create (h : b.Holds chunks) (data : Bytes) :
    (b.make (.create data)).1 = chunks.length ∧
      (b.make (.create data)).2.Holds (chunks ++ [[data]]) :=
  ⟨h.length_eq, h.perform (.create data)⟩

theorem make_copy (h : b.Holds chunks) {i : Nat} {cs : List Bytes} (hcs : chunks[i]? = some cs) :
    (b.make (.copy i)).1 = chunks.length ∧ (b.make (.copy i)).2.Holds (chunks ++ [cs]) := by
  constructor
  · obtain ⟨p, hp⟩ := h.exists_placed hcs
    rw [make, Hashers.perform, withPlaced_of_some hp]
    exact h.length_eq
  · have hrecord : (Command.copy i).record chunks = chunks ++ [cs] := by
      rw [Command.record, hcs, Option.toList_some]
    rw [← hrecord]
    exact h.perform (.copy i)

theorem readDigest (h : b.Holds chunks) {i : Nat} {cs : List Bytes} (hcs : chunks[i]? = some cs) :
    (b.readDigest i).1 = c.hash cs.flatten ∧ (b.readDigest i).2.Holds chunks := by
  refine ⟨?_, h.perform (.digest i)⟩
  obtain ⟨hasher, hview, hfed⟩ := h.exists_view hcs
  rw [Hashers.readDigest, answer_digest, hview, Option.elim_some, Answer.value, hfed.digest_eq]

end Holds

/-! ## One code -/

namespace Holds

section Key

variable {a : Algorithm} {b : Hashers a.construction}

/-- The key stands as one block in a buffer that no hasher uses. -/
theorem holdKey (h : b.Holds chunks) (key : Bytes) :
    ∃ more, (holdKey a key b).2.Holds (chunks ++ more) ∧
      (holdKey a key b).2.Keeps (holdKey a key b).1 (blockKey a key) := by
  have hgiven := h.hold key
  have hkey := h.keeps_hold key
  rw [Digest.holdKey, blockKey]
  by_cases hlong : key.length > a.blockSize
  · simp only [if_pos hlong]
    set given := b.hold key
    obtain ⟨honce, hmade⟩ := hgiven.make_create key
    have hmadeKey := hkey.perform hgiven (.create key)
    set once := given.2.make (.create key)
    have hlast : (chunks ++ [[key]])[once.1]? = some [key] := by
      rw [honce, List.getElem?_concat_length]
    obtain ⟨hdigest, hread⟩ := hmade.readDigest hlast
    have hreadKey := hmadeKey.perform hmade (.digest once.1)
    set digest := once.2.readDigest once.1
    have hhashed := hread.keeps_hold digest.1
    -- the new buffer is another one than that of the key, which is wiped
    have hne : (digest.2.hold digest.1).1 ≠ given.1 := Nat.ne_of_gt hreadKey.lt
    have hwiped := (hread.hold digest.1).edit (hreadKey.hold digest.1) Buffer.wiped
    have hshort := hhashed.edit_of_ne hne Buffer.wiped
    have hvalue : digest.1 = (hash a key).value := by
      rw [hdigest, List.flatten_singleton]
      rfl
    rw [hvalue] at hshort hwiped ⊢
    exact ⟨[[key]], hwiped.edit hshort _, hshort.edit _⟩
  · simp only [if_neg hlong]
    refine ⟨[], ?_, hkey.edit _⟩
    rw [List.append_nil]
    exact hgiven.edit hkey _

/-- A new hasher that is fed the key with a pad. -/
theorem make_padded (h : b.Holds chunks) {address : Nat} {key : Bytes}
    (hk : b.Keeps address (blockKey a key)) (pad : UInt8) :
    let r := b.make (.create ((b.memory.read address).map (· ^^^ pad)))
    r.1 = chunks.length ∧ r.2.Holds (chunks ++ [[padKey a key pad]]) ∧
      r.2.Keeps address (blockKey a key) := by
  intro r
  obtain ⟨hnumber, hholds⟩ := h.make_create ((b.memory.read address).map (· ^^^ pad))
  have hkeeps := hk.perform h (.create ((b.memory.read address).map (· ^^^ pad)))
  refine ⟨hnumber, ?_, hkeeps⟩
  rw [padKey, ← hk.read_eq]
  exact hholds

/-- New hashers hold the padded key. -/
theorem nest (h : b.Holds chunks) (key : Bytes) :
    ∃ more, (nest a key b).2.Holds (chunks ++ more) ∧
      chunks.length ≤ (nest a key b).1.inner ∧ (nest a key b).1.inner < (nest a key b).1.outer ∧
      (chunks ++ more)[(nest a key b).1.inner]? = some [padKey a key 0x36] ∧
      (chunks ++ more)[(nest a key b).1.outer]? = some [padKey a key 0x5C] := by
  obtain ⟨more, hheld, hkey⟩ := h.holdKey key
  rw [Digest.nest]
  simp only
  set held := Digest.holdKey a key b
  obtain ⟨hinner, hholds, hkey⟩ := hheld.make_padded hkey 0x36
  set inner := held.2.make (.create ((held.2.memory.read held.1).map (· ^^^ 0x36)))
  obtain ⟨houter, hholds, hkey⟩ := hholds.make_padded hkey 0x5C
  set outer := inner.2.make (.create ((inner.2.memory.read held.1).map (· ^^^ 0x5C)))
  rw [hinner, houter]
  simp only [List.append_assoc] at hholds ⊢
  refine ⟨more ++ ([[padKey a key 0x36]] ++ [[padKey a key 0x5C]]), hholds.edit hkey _, ?_, ?_, ?_, ?_⟩
  · simp
  · simp
  · simp
  · simp

end Key

/-- **A code is read** as the digest of what its outer hasher holds and the digest of its inner one; the
hashers keep what they hold. -/
theorem read (h : b.Holds chunks) {n : Nested} {cs ds : List Bytes}
    (hinner : chunks[n.inner]? = some cs) (houter : chunks[n.outer]? = some ds) :
    (n.read b).1 = c.hash (ds.flatten ++ c.hash cs.flatten) ∧
      ∃ more, (n.read b).2.Holds (chunks ++ more) := by
  have hlt := (List.getElem?_eq_some_iff.mp hinner).1
  obtain ⟨hcopy, hholds⟩ := h.make_copy houter
  rw [Nested.read]
  set outer := b.make (.copy n.outer)
  have hinner' : (chunks ++ [ds])[n.inner]? = some cs := by
    rw [List.getElem?_append_left hlt, hinner]
  obtain ⟨hdigest, hholds⟩ := hholds.readDigest hinner'
  set inner := outer.2.readDigest n.inner
  have hrecord : (Command.update outer.1 inner.1).record (chunks ++ [ds]) =
      chunks ++ [ds ++ [c.hash cs.flatten]] := by
    rw [Command.record, hcopy, hdigest, List.modify_eq_set, List.getElem?_concat_length,
      Option.getD_some]
    simp
  have hfed := hholds.perform (.update outer.1 inner.1)
  rw [hrecord] at hfed
  have hlast : (chunks ++ [ds ++ [c.hash cs.flatten]])[outer.1]? = some (ds ++ [c.hash cs.flatten]) := by
    rw [hcopy, List.getElem?_concat_length]
  obtain ⟨hcode, hholds⟩ := hfed.readDigest hlast
  rw [List.flatten_concat] at hcode
  exact ⟨hcode, _, hholds⟩

end Holds

end Hashers

/-! ## Several codes by their formula -/

theorem Material.toBytes_of_isEmpty {m : Material} (h : m.isEmpty = true) : m.toBytes = [] := by
  cases m with
  | text s =>
    rw [String.isEmpty_iff.mp h]
    rfl
  | bytes bs => exact List.isEmpty_iff.mp h

/-- A key, and what was fed under it. -/
structure Keyed where
  key : Bytes
  message : Bytes

/-- What is done with the entry of a number, if there is one. -/
def withKeyed (entries : List Keyed) (i : Nat) (f : Keyed → Answer × List Keyed) :
    Answer × List Keyed :=
  match entries[i]? with
  | some e => f e
  | none => (.missing, entries)

/-- What a request does to keys and messages, and what the formula answers. -/
def Request.onKeyed (a : Algorithm) (entries : List Keyed) : Request → Answer × List Keyed
  | create key message => (.number entries.length, entries ++ [⟨key.toBytes, message.toBytes⟩])
  | update i message => withKeyed entries i fun e =>
    (.done, entries.set i ⟨e.key, e.message ++ message.toBytes⟩)
  | copy i => withKeyed entries i fun e => (.number entries.length, entries ++ [e])
  | digest i => withKeyed entries i fun e => (.digest (Rfc2104.code a e.key e.message), entries)
  | hexDigest i => withKeyed entries i fun e =>
    (.hex (Bytes.toHex (Rfc2104.code a e.key e.message)), entries)

/-- What the formula answers to a sequence of requests. -/
def formulaAnswers (a : Algorithm) (entries : List Keyed) : List Request → List Answer
  | [] => []
  | request :: requests =>
    let r := request.onKeyed a entries
    r.1 :: formulaAnswers a r.2 requests

namespace Hmacs

variable {a : Algorithm} {s : Hmacs a} {chunks : List (List Bytes)} {entries : List Keyed}

/-- Every code has an inner hasher that no other code has, and its hashers hold its key, the inner one
with its message. -/
structure Holds (s : Hmacs a) (chunks : List (List Bytes)) (entries : List Keyed) : Prop where
  hashers : s.hashers.Holds chunks
  length_eq : s.nested.length = entries.length
  inner : ∀ {i : Nat} {n : Nested} {e : Keyed}, s.nested[i]? = some n → entries[i]? = some e →
    ∃ cs, chunks[n.inner]? = some cs ∧ cs.flatten = padKey a e.key 0x36 ++ e.message
  outer : ∀ {i : Nat} {n : Nested} {e : Keyed}, s.nested[i]? = some n → entries[i]? = some e →
    ∃ cs, chunks[n.outer]? = some cs ∧ cs.flatten = padKey a e.key 0x5C
  distinct : ∀ {i j : Nat} {n m : Nested}, s.nested[i]? = some n → s.nested[j]? = some m → i ≠ j →
    n.inner ≠ m.inner
  apart : ∀ {i j : Nat} {n m : Nested}, s.nested[i]? = some n → s.nested[j]? = some m →
    n.inner ≠ m.outer

namespace Holds

theorem empty (a : Algorithm) : (Hmacs.empty a).Holds [] [] :=
  ⟨.empty _, rfl, fun hn => (nomatch hn), fun hn => (nomatch hn), fun hn => (nomatch hn),
    fun hn => (nomatch hn)⟩

theorem exists_entry (h : s.Holds chunks entries) {i : Nat} {n : Nested} (hn : s.nested[i]? = some n) :
    ∃ e, entries[i]? = some e := by
  have hlt := (List.getElem?_eq_some_iff.mp hn).1
  rw [h.length_eq] at hlt
  exact ⟨entries[i], List.getElem?_eq_getElem hlt⟩

theorem none_of_none (h : s.Holds chunks entries) {i : Nat} (hn : s.nested[i]? = none) :
    entries[i]? = none := by
  rw [List.getElem?_eq_none_iff] at hn ⊢
  rw [← h.length_eq]
  exact hn

theorem bound (h : s.Holds chunks entries) {i : Nat} {n : Nested} (hn : s.nested[i]? = some n) :
    n.inner < chunks.length ∧ n.outer < chunks.length := by
  obtain ⟨e, he⟩ := h.exists_entry hn
  obtain ⟨cs, hcs, -⟩ := h.inner hn he
  obtain ⟨ds, hds, -⟩ := h.outer hn he
  exact ⟨(List.getElem?_eq_some_iff.mp hcs).1, (List.getElem?_eq_some_iff.mp hds).1⟩

/-- Further hashers change no code. -/
theorem extend (h : s.Holds chunks entries) {b : Hashers a.construction} {more : List (List Bytes)}
    (hb : b.Holds (chunks ++ more)) : ({ s with hashers := b } : Hmacs a).Holds (chunks ++ more) entries := by
  refine ⟨hb, h.length_eq, fun hn he => ?_, fun hn he => ?_, h.distinct, h.apart⟩
  · obtain ⟨cs, hcs, hflatten⟩ := h.inner hn he
    exact ⟨cs, by rw [List.getElem?_append_left (h.bound hn).1, hcs], hflatten⟩
  · obtain ⟨cs, hcs, hflatten⟩ := h.outer hn he
    exact ⟨cs, by rw [List.getElem?_append_left (h.bound hn).2, hcs], hflatten⟩

/-- A code with hashers of its own is added. -/
theorem add (h : s.Holds chunks entries) {b : Hashers a.construction} {more : List (List Bytes)}
    (hb : b.Holds (chunks ++ more)) {n : Nested} {e : Keyed} {cs ds : List Bytes}
    (hnew : chunks.length ≤ n.inner) (hlt : n.inner < n.outer)
    (hinner : (chunks ++ more)[n.inner]? = some cs)
    (hcs : cs.flatten = padKey a e.key 0x36 ++ e.message)
    (houter : (chunks ++ more)[n.outer]? = some ds) (hds : ds.flatten = padKey a e.key 0x5C) :
    (s.add n b).2.Holds (chunks ++ more) (entries ++ [e]) := by
  have hold := h.extend hb
  have hentry {i : Nat} {m : Nested} {e' : Keyed} (hm : (s.add n b).2.nested[i]? = some m)
      (he : (entries ++ [e])[i]? = some e') :
      s.nested[i]? = some m ∧ entries[i]? = some e' ∨ m = n ∧ e' = e := by
    rcases getElem?_concat_cases hm with hm | ⟨hi, rfl⟩ <;>
      rcases getElem?_concat_cases he with he | ⟨hj, rfl⟩
    · exact .inl ⟨hm, he⟩
    · have hlt := (List.getElem?_eq_some_iff.mp hm).1
      have := h.length_eq
      omega
    · have hlt := (List.getElem?_eq_some_iff.mp he).1
      have := h.length_eq
      omega
    · exact .inr ⟨rfl, rfl⟩
  refine ⟨hb, ?_, fun hm he => ?_, fun hm he => ?_, fun hm hk hij => ?_, fun hm hk => ?_⟩
  · rw [Hmacs.add, List.length_append, List.length_append, h.length_eq]
    rfl
  · rcases hentry hm he with ⟨hm, he⟩ | ⟨rfl, rfl⟩
    · exact hold.inner hm he
    · exact ⟨cs, hinner, hcs⟩
  · rcases hentry hm he with ⟨hm, he⟩ | ⟨rfl, rfl⟩
    · exact hold.outer hm he
    · exact ⟨ds, houter, hds⟩
  -- the hashers of the new code have higher numbers than all before
  · rcases getElem?_concat_cases hm with hm' | ⟨hi, hmn⟩ <;>
      rcases getElem?_concat_cases hk with hk' | ⟨hj, hkn⟩
    · exact h.distinct hm' hk' hij
    · have := (h.bound hm').1
      rw [hkn]
      omega
    · have := (h.bound hk').1
      rw [hmn]
      omega
    · omega
  · rcases getElem?_concat_cases hm with hm' | ⟨hi, hmn⟩ <;>
      rcases getElem?_concat_cases hk with hk' | ⟨hj, hkn⟩
    · exact h.apart hm' hk'
    · have := (h.bound hm').1
      rw [hkn]
      omega
    · have := (h.bound hk').2
      rw [hmn]
      omega
    · rw [hmn, hkn]
      omega

/-- A code is fed: no other code has its inner hasher. -/
theorem feed (h : s.Holds chunks entries) {i : Nat} {n : Nested} {e : Keyed}
    (hn : s.nested[i]? = some n) (he : entries[i]? = some e) (data : Bytes) :
    ({ s with hashers := (s.hashers.perform (.update n.inner data)).2 } : Hmacs a).Holds
      (chunks.modify n.inner (· ++ [data])) (entries.set i ⟨e.key, e.message ++ data⟩) := by
  refine ⟨h.hashers.perform (.update n.inner data), ?_, fun {j m e'} hm he' => ?_,
    fun {j m e'} hm he' => ?_, h.distinct, h.apart⟩
  · rw [List.length_set]
    exact h.length_eq
  · by_cases hij : i = j
    · subst hij
      obtain rfl := Option.some.inj (hn.symm.trans hm)
      obtain ⟨cs, hcs, hflatten⟩ := h.inner hn he
      have hlt := (List.getElem?_eq_some_iff.mp he).1
      rw [List.getElem?_set_self hlt] at he'
      obtain rfl := Option.some.inj he'
      refine ⟨cs ++ [data], ?_, ?_⟩
      · rw [List.getElem?_modify_eq, hcs]
        rfl
      · rw [List.flatten_concat, hflatten, List.append_assoc]
    · rw [List.getElem?_set_ne hij] at he'
      obtain ⟨cs, hcs, hflatten⟩ := h.inner hm he'
      refine ⟨cs, ?_, hflatten⟩
      rw [List.getElem?_modify_ne _ _ (h.distinct hn hm hij), hcs]
  · have hkey : ∃ e'', entries[j]? = some e'' ∧ e''.key = e'.key := by
      by_cases hij : i = j
      · subst hij
        have hlt := (List.getElem?_eq_some_iff.mp he).1
        rw [List.getElem?_set_self hlt] at he'
        obtain rfl := Option.some.inj he'
        exact ⟨e, he, rfl⟩
      · rw [List.getElem?_set_ne hij] at he'
        exact ⟨e', he', rfl⟩
    obtain ⟨e'', he'', hkey⟩ := hkey
    obtain ⟨ds, hds, hflatten⟩ := h.outer hm he''
    refine ⟨ds, ?_, ?_⟩
    · rw [List.getElem?_modify_ne _ _ (h.apart hn hm), hds]
    · rw [hflatten, hkey]

/-- A code is read as the formula has it, and no code is changed. -/
theorem read (h : s.Holds chunks entries) {i : Nat} {n : Nested} {e : Keyed}
    (hn : s.nested[i]? = some n) (he : entries[i]? = some e) :
    (n.read s.hashers).1 = Rfc2104.code a e.key e.message ∧
      ∃ more, ({ s with hashers := (n.read s.hashers).2 } : Hmacs a).Holds (chunks ++ more) entries := by
  obtain ⟨cs, hcs, hinner⟩ := h.inner hn he
  obtain ⟨ds, hds, houter⟩ := h.outer hn he
  obtain ⟨hcode, more, hholds⟩ := h.hashers.read hcs hds
  rw [hinner, houter, hash_padKey] at hcode
  exact ⟨hcode, more, h.extend hholds⟩

/-- A code is begun. -/
theorem create (h : s.Holds chunks entries) (key message : Material) :
    ∃ chunks', (s.perform (.create key message)).2.Holds chunks'
      (entries ++ [⟨key.toBytes, message.toBytes⟩]) := by
  obtain ⟨more, hholds, hnew, hlt, hinner, houter⟩ := h.hashers.nest key.toBytes
  rw [perform]
  set fresh := nest a key.toBytes s.hashers
  have hbegun := h.add (e := ⟨key.toBytes, []⟩) hholds hnew hlt hinner (by simp) houter (by simp)
  by_cases hempty : message.isEmpty = true
  · simp only [if_pos hempty]
    rw [Material.toBytes_of_isEmpty hempty]
    exact ⟨_, hbegun⟩
  · simp only [if_neg hempty]
    have hn : (s.add fresh.1 fresh.2).2.nested[s.nested.length]? = some fresh.1 :=
      List.getElem?_concat_length
    have he : (entries ++ [(⟨key.toBytes, []⟩ : Keyed)])[s.nested.length]? =
        some ⟨key.toBytes, []⟩ := by
      rw [h.length_eq, List.getElem?_concat_length]
    have hfed := hbegun.feed hn he message.toBytes
    have hset : (entries ++ [(⟨key.toBytes, []⟩ : Keyed)]).set s.nested.length
        ⟨key.toBytes, [] ++ message.toBytes⟩ = entries ++ [⟨key.toBytes, message.toBytes⟩] := by
      rw [h.length_eq]
      simp
    rw [hset] at hfed
    exact ⟨_, hfed⟩

/-- A code is copied. -/
theorem copy (h : s.Holds chunks entries) {i : Nat} {n : Nested} {e : Keyed}
    (hn : s.nested[i]? = some n) (he : entries[i]? = some e) :
    let inner := s.hashers.make (.copy n.inner)
    let outer := inner.2.make (.copy n.outer)
    ∃ chunks', (s.add ⟨inner.1, outer.1⟩ outer.2).2.Holds chunks' (entries ++ [e]) := by
  intro inner outer
  obtain ⟨cs, hcs, hinner⟩ := h.inner hn he
  obtain ⟨ds, hds, houter⟩ := h.outer hn he
  obtain ⟨hinnerNumber, hholds⟩ := h.hashers.make_copy hcs
  have hds' : (chunks ++ [cs])[n.outer]? = some ds := by
    rw [List.getElem?_append_left (h.bound hn).2, hds]
  obtain ⟨houterNumber, hholds⟩ := hholds.make_copy hds'
  have hi : inner.1 = chunks.length := hinnerNumber
  have ho : outer.1 = chunks.length + 1 := by
    rw [houterNumber, List.length_append, List.length_singleton]
  rw [List.append_assoc] at hholds
  refine ⟨_, h.add hholds ?_ ?_ ?_ hinner ?_ houter⟩
  · exact Nat.le_of_eq hi.symm
  · rw [hi, ho]
    exact Nat.lt_succ_self _
  · rw [hi]
    simp
  · rw [ho]
    simp

/-- Codes and entries have the same numbers. -/
theorem withNumber (h : s.Holds chunks entries) (i : Nat) {f : Nested → Answer × Hmacs a}
    {g : Keyed → Answer × List Keyed}
    (hstep : ∀ n e, s.nested[i]? = some n → entries[i]? = some e →
      (f n).1 = (g e).1 ∧ ∃ chunks', (f n).2.Holds chunks' (g e).2) :
    (s.withNested i f).1 = (withKeyed entries i g).1 ∧
      ∃ chunks', (s.withNested i f).2.Holds chunks' (withKeyed entries i g).2 := by
  rw [withNested, withKeyed]
  cases hn : s.nested[i]? with
  | none =>
    rw [h.none_of_none hn]
    exact ⟨rfl, chunks, h⟩
  | some n =>
    obtain ⟨e, he⟩ := h.exists_entry hn
    rw [he]
    exact hstep n e hn he

/-- **One request** is answered as the formula does, and does to the codes what it says. -/
theorem perform (h : s.Holds chunks entries) (request : Request) :
    (s.perform request).1 = (request.onKeyed a entries).1 ∧
      ∃ chunks', (s.perform request).2.Holds chunks' (request.onKeyed a entries).2 := by
  cases request with
  | create key message => exact ⟨congrArg Answer.number h.length_eq, h.create key message⟩
  | update i message =>
    refine h.withNumber i fun n e hn he => ?_
    exact ⟨rfl, _, h.feed hn he message.toBytes⟩
  | copy i =>
    refine h.withNumber i fun n e hn he => ?_
    exact ⟨congrArg Answer.number h.length_eq, h.copy hn he⟩
  | digest i =>
    refine h.withNumber i fun n e hn he => ?_
    obtain ⟨hcode, more, hholds⟩ := h.read hn he
    exact ⟨congrArg Answer.digest hcode, _, hholds⟩
  | hexDigest i =>
    refine h.withNumber i fun n e hn he => ?_
    obtain ⟨hcode, more, hholds⟩ := h.read hn he
    exact ⟨congrArg (fun bs => Answer.hex (Bytes.toHex bs)) hcode, _, hholds⟩

/-- **A sequence of requests** is answered as the formula does. -/
theorem answers_eq (h : s.Holds chunks entries) (requests : List Request) :
    s.answers requests = formulaAnswers a entries requests := by
  induction requests generalizing s chunks entries with
  | nil => rfl
  | cons request requests ih =>
    obtain ⟨hanswer, chunks', hholds⟩ := h.perform request
    rw [answers, formulaAnswers, hanswer, ih hholds]

/-- What is left behind holds keys and messages. -/
theorem run (h : s.Holds chunks entries) (requests : List Request) :
    ∃ chunks' entries', (s.run requests).Holds chunks' entries' := by
  induction requests generalizing s chunks entries with
  | nil => exact ⟨chunks, entries, h⟩
  | cons request requests ih =>
    obtain ⟨-, chunks', hholds⟩ := h.perform request
    exact ih hholds

end Holds

theorem onKeyed_digest (a : Algorithm) (entries : List Keyed) (i : Nat) :
    ((Request.digest i).onKeyed a entries).2 = entries ∧
      ((Request.hexDigest i).onKeyed a entries).2 = entries := by
  rw [Request.onKeyed, Request.onKeyed, withKeyed, withKeyed]
  cases entries[i]? <;> exact ⟨rfl, rfl⟩

/-- **Codes that are fed piecewise are those of the formula**, whatever is asked of any number of them:
all answers are those of keys and messages under the formula, reading a code changes no answer that
follows, and the code of a complete message is the same. -/
theorem answers_formula (a : Algorithm) :
    (∀ requests, (Hmacs.empty a).answers requests = formulaAnswers a [] requests) ∧
    (∀ requests i rest, let s := (Hmacs.empty a).run requests
      (s.perform (.digest i)).2.answers rest = s.answers rest ∧
      (s.perform (.hexDigest i)).2.answers rest = s.answers rest) ∧
    ∀ key message : Material, (hmac a key.toBytes message.toBytes).value =
      Rfc2104.code a key.toBytes message.toBytes := by
  refine ⟨fun requests => (Holds.empty a).answers_eq requests, fun requests i rest => ?_,
    fun key message => value_hmac a _ _⟩
  intro s
  obtain ⟨chunks, entries, h⟩ := (Holds.empty a).run requests
  obtain ⟨-, _, hdigest⟩ := h.perform (.digest i)
  obtain ⟨-, _, hhex⟩ := h.perform (.hexDigest i)
  rw [(onKeyed_digest a entries i).1] at hdigest
  rw [(onKeyed_digest a entries i).2] at hhex
  rw [hdigest.answers_eq, hhex.answers_eq, h.answers_eq]
  exact ⟨rfl, rfl⟩

end Hmacs

end Airgap.Digest
