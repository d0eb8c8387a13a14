import Airgap.Digest.Hashers
import Airgap.Proofs.Digest.Construction
import Mathlib.Data.List.Induction

/-!
# Hashers that share a memory do not share their messages

* `Memory.Frame`: the buffers in use keep their content, all but one.
* `Command.record`: the chunks that each hasher was fed.
* `Hashers.Holds`: every hasher has a buffer of its own and holds its message. `Holds.perform` is one
  command, `holds_run` a whole sequence of them.
* `Hashers.digest_run`: what the hashers answer after any sequence of commands.
-/

namespace Airgap.Digest

variable {c : Construction}

/-! ## What an operation leaves alone -/

/-- All buffers in use keep their content but the one at `own`. -/
structure Memory.Frame (m m' : Memory) (own : Option Nat) : Prop where
  size_le : m.size ≤ m'.size
  read_eq : ∀ a, a < m.size → own ≠ some a → m'.read a = m.read a

namespace Memory.Frame

variable {m m' : Memory} {own : Option Nat}

theorem refl (m : Memory) (own : Option Nat) : m.Frame m own := ⟨Nat.le_refl _, fun _ _ _ => rfl⟩

theorem allocate (h : m.Frame m' own) (content : Bytes) : m.Frame (m'.allocate content) own := by
  refine ⟨?_, fun a ha hne => ?_⟩
  · rw [size_allocate]
    exact Nat.le_succ_of_le h.size_le
  · rw [read_allocate_of_lt (Nat.lt_of_lt_of_le ha h.size_le), h.read_eq a ha hne]

/-- A buffer may be written that is not in use yet, or is the one that may change. -/
theorem write (h : m.Frame m' own) {address : Nat} (ha : m.size ≤ address ∨ own = some address)
    (content : Bytes) : m.Frame (m'.write address content) own := by
  refine ⟨?_, fun a hlt hne => ?_⟩
  · rw [size_write]
    exact h.size_le
  · have hother : a ≠ address := by
      rintro rfl
      rcases ha with ha | ha
      · omega
      · exact hne ha
    rw [read_write_of_ne hother, h.read_eq a hlt hne]

end Memory.Frame

namespace Placed

variable (p : Placed c) (m : Memory)

theorem address_create_lt : (create c m).1.address < (create c m).2.size := by
  rw [create, Memory.size_allocate]
  exact Nat.lt_succ_self _

theorem address_clear : (p.clear m).1.address = m.size := Memory.size_write _ _ _

theorem address_copy_lt : (p.copy m).1.address < (p.copy m).2.size := by
  rw [copy, Memory.size_allocate]
  exact Nat.lt_succ_self _

theorem address_update (data : Bytes) : (p.update data m).1.address = p.address := rfl

theorem size_update (data : Bytes) : (p.update data m).2.size = m.size := Memory.size_write _ _ _

theorem view_create : (create c m).1.view (create c m).2 = Hasher.empty c := by
  rw [view, create, Memory.read_allocate]
  rfl

theorem view_update {p : Placed c} {m : Memory} (h : p.address < m.size) (data : Bytes) :
    (p.update data m).1.view (p.update data m).2 = (p.view m).update data := by
  rw [view, update, Memory.read_write h]

theorem view_copy : (p.copy m).1.view (p.copy m).2 = p.view m := by
  rw [view, copy, Memory.read_allocate]
  rfl

theorem view_clear : (p.clear m).1.view (p.clear m).2 = Hasher.empty c := view_create _

theorem digest_fst : (p.digest m).1 = (p.view m).digest := by
  rw [digest, view_copy]

theorem frame_update (data : Bytes) : m.Frame (p.update data m).2 (some p.address) :=
  (Memory.Frame.refl m _).write (.inr rfl) _

theorem frame_clear : m.Frame (p.clear m).2 (some p.address) :=
  ((Memory.Frame.refl m _).write (.inr rfl) _).allocate _

/-- The copy that a digest is computed in has a buffer that nothing else uses. -/
theorem frame_digest : m.Frame (p.digest m).2 none := by
  have htail : m.size ≤ (p.copy m).1.address := Nat.le_refl m.size
  have h : m.Frame (p.copy m).2 none := (Memory.Frame.refl m _).allocate _
  exact ((h.write (.inl htail) _).write (.inl htail) _).allocate _

end Placed

/-- An entry of a list with one more at its end. -/
theorem getElem?_concat_cases {α : Type*} {xs : List α} {x y : α} {i : Nat}
    (h : (xs ++ [x])[i]? = some y) : xs[i]? = some y ∨ i = xs.length ∧ y = x := by
  rw [List.getElem?_append] at h
  split at h
  · exact .inl h
  · obtain ⟨hlt, rfl⟩ := List.getElem?_eq_some_iff.mp h
    rw [List.length_singleton] at hlt
    exact .inr ⟨by omega, List.getElem_singleton _⟩

/-! ## What each hasher was fed -/

/-- The chunks that each hasher was fed since it was last cleared; a copy takes over those of its
original. -/
def Command.record (chunks : List (List Bytes)) : Command → List (List Bytes)
  | .create data => chunks ++ [[data]]
  | .update i data => chunks.modify i (· ++ [data])
  | .copy i => chunks ++ chunks[i]?.toList
  | .clear i => chunks.set i []
  | .digest _ | .hexDigest _ => chunks

/-- The chunks that each hasher was fed by a sequence of commands, from no hashers on. -/
def recorded (commands : List Command) : List (List Bytes) := commands.foldl Command.record []

/-- The hasher that a command changes. -/
def Command.changed? : Command → Option Nat
  | .update i _ | .clear i => some i
  | _ => none

namespace Hashers

theorem withPlaced_of_some {b : Hashers c} {i : Nat} {p : Placed c} (hp : b.placed[i]? = some p)
    (f : Placed c → Answer × Hashers c) : b.withPlaced i f = f p := by
  rw [withPlaced, hp]

theorem withPlaced_of_none {b : Hashers c} {i : Nat} (hp : b.placed[i]? = none)
    (f : Placed c → Answer × Hashers c) : b.withPlaced i f = (.missing, b) := by
  rw [withPlaced, hp]

theorem placed_add {b : Hashers c} {r : Placed c × Memory} {i : Nat} {p : Placed c}
    (hp : (b.add r).2.placed[i]? = some p) :
    b.placed[i]? = some p ∨ i = b.placed.length ∧ p = r.1 := getElem?_concat_cases hp

theorem placed_put {b : Hashers c} {r : Placed c × Memory} {i j : Nat} {q : Placed c}
    (hq : (b.put i r).2.placed[j]? = some q) :
    i ≠ j ∧ b.placed[j]? = some q ∨ i = j ∧ q = r.1 := by
  rw [put, List.getElem?_set] at hq
  split at hq
  · rename_i hij
    split at hq
    · exact .inr ⟨hij, (Option.some.inj hq).symm⟩
    · cases hq
  · rename_i hij
    exact .inl ⟨hij, hq⟩

/-- Every hasher has a buffer of its own and holds the message of its chunks. -/
structure Holds (b : Hashers c) (chunks : List (List Bytes)) : Prop where
  length_eq : b.placed.length = chunks.length
  fed : ∀ {i : Nat} {p : Placed c} {cs : List Bytes}, b.placed[i]? = some p →
    chunks[i]? = some cs → (p.view b.memory).Fed cs.flatten
  bound : ∀ {i : Nat} {p : Placed c}, b.placed[i]? = some p → p.address < b.memory.size
  distinct : ∀ {i j : Nat} {p q : Placed c}, b.placed[i]? = some p → b.placed[j]? = some q →
    i ≠ j → p.address ≠ q.address

namespace Holds

variable {b : Hashers c} {chunks : List (List Bytes)} {i : Nat} {p : Placed c}

theorem exists_chunks (h : b.Holds chunks) (hp : b.placed[i]? = some p) :
    ∃ cs, chunks[i]? = some cs := by
  have hlt := (List.getElem?_eq_some_iff.mp hp).1
  rw [h.length_eq] at hlt
  exact ⟨chunks[i], List.getElem?_eq_getElem hlt⟩

theorem exists_placed (h : b.Holds chunks) {cs : List Bytes} (hcs : chunks[i]? = some cs) :
    ∃ p, b.placed[i]? = some p := by
  have hlt := (List.getElem?_eq_some_iff.mp hcs).1
  rw [← h.length_eq] at hlt
  exact ⟨b.placed[i], List.getElem?_eq_getElem hlt⟩

theorem le_of_none (h : b.Holds chunks) (hp : b.placed[i]? = none) : chunks.length ≤ i := by
  rw [← h.length_eq]
  exact List.getElem?_eq_none_iff.mp hp

/-- A hasher stays what it is when its buffer is left alone. -/
theorem view_eq (h : b.Holds chunks) (hp : b.placed[i]? = some p) {m' : Memory} {own : Option Nat}
    (hf : b.memory.Frame m' own) (hne : own ≠ some p.address) : p.view m' = p.view b.memory := by
  rw [Placed.view, Placed.view, hf.read_eq _ (h.bound hp) hne]

theorem empty (c : Construction) : (Hashers.empty c).Holds [] :=
  ⟨rfl, fun hp => (nomatch hp), fun hp => (nomatch hp), fun hp => (nomatch hp)⟩

theorem memory (h : b.Holds chunks) {m' : Memory} (hf : b.memory.Frame m' none) :
    ({ b with memory := m' } : Hashers c).Holds chunks := by
  refine ⟨h.length_eq, fun hp hcs => ?_, fun hp => Nat.lt_of_lt_of_le (h.bound hp) hf.size_le,
    h.distinct⟩
  rw [h.view_eq hp hf (Option.some_ne_none _).symm]
  exact h.fed hp hcs

theorem view_of_frame (h : b.Holds chunks) {b' : Hashers c} {own : Option Nat}
    (hp : b.placed[i]? = some p) (hp' : b'.placed[i]? = some p)
    (hf : b.memory.Frame b'.memory own) (hne : own ≠ some p.address) : b'.view i = b.view i := by
  rw [view, view, hp, hp', Option.map_some, Option.map_some, h.view_eq hp hf hne]

theorem add (h : b.Holds chunks) {r : Placed c × Memory} {cs : List Bytes}
    (hf : b.memory.Frame r.2 none) (hnew : b.memory.size ≤ r.1.address)
    (hbound : r.1.address < r.2.size) (hfed : (r.1.view r.2).Fed cs.flatten) :
    (b.add r).2.Holds (chunks ++ [cs]) := by
  refine ⟨?_, fun {i p cs'} hp hcs => ?_, fun hp => ?_, fun hp hq hij => ?_⟩
  · rw [Hashers.add, List.length_append, List.length_append, h.length_eq]
    rfl
  · rcases placed_add hp with hp | ⟨rfl, rfl⟩
    · have hlt := (List.getElem?_eq_some_iff.mp hp).1
      rw [List.getElem?_append_left (h.length_eq ▸ hlt)] at hcs
      rw [Hashers.add, h.view_eq hp hf (Option.some_ne_none _).symm]
      exact h.fed hp hcs
    · rw [h.length_eq, List.getElem?_concat_length] at hcs
      obtain rfl := Option.some.inj hcs
      exact hfed
  · rcases placed_add hp with hp | ⟨-, rfl⟩
    · exact Nat.lt_of_lt_of_le (h.bound hp) hf.size_le
    · exact hbound
  · rcases placed_add hp with hp | ⟨hi, rfl⟩ <;> rcases placed_add hq with hq | ⟨hj, rfl⟩
    · exact h.distinct hp hq hij
    · have := h.bound hp
      omega
    · have := h.bound hq
      omega
    · omega

theorem put (h : b.Holds chunks) (hp : b.placed[i]? = some p) {r : Placed c × Memory}
    {cs : List Bytes} (hf : b.memory.Frame r.2 (some p.address))
    (hown : r.1.address = p.address ∨ b.memory.size ≤ r.1.address)
    (hbound : r.1.address < r.2.size) (hfed : (r.1.view r.2).Fed cs.flatten) :
    (b.put i r).2.Holds (chunks.set i cs) := by
  -- the address of the changed hasher is its old one or new, so no other hasher has it
  have hapart : ∀ {j : Nat} {q : Placed c}, b.placed[j]? = some q → i ≠ j →
      r.1.address ≠ q.address := by
    intro j q hq hij
    rcases hown with hown | hown
    · rw [hown]
      exact h.distinct hp hq hij
    · have := h.bound hq
      omega
  refine ⟨?_, fun {j q cs'} hq hcs => ?_, fun hq => ?_, fun hq hs hjk => ?_⟩
  · rw [Hashers.put, List.length_set, List.length_set, h.length_eq]
  · rcases placed_put hq with ⟨hij, hq⟩ | ⟨rfl, rfl⟩
    · rw [List.getElem?_set_ne hij] at hcs
      have hne : some p.address ≠ some q.address := fun he =>
        h.distinct hp hq hij (Option.some.inj he)
      rw [Hashers.put, h.view_eq hq hf hne]
      exact h.fed hq hcs
    · have hlt := (List.getElem?_eq_some_iff.mp hp).1
      rw [List.getElem?_set_self (h.length_eq ▸ hlt)] at hcs
      obtain rfl := Option.some.inj hcs
      exact hfed
  · rcases placed_put hq with ⟨-, hq⟩ | ⟨-, rfl⟩
    · exact Nat.lt_of_lt_of_le (h.bound hq) hf.size_le
    · exact hbound
  · rcases placed_put hq with ⟨hij, hq⟩ | ⟨hij, rfl⟩ <;>
      rcases placed_put hs with ⟨hik, hs⟩ | ⟨hik, rfl⟩
    · exact h.distinct hq hs hjk
    · exact (hapart hq hij).symm
    · exact hapart hs hik
    · exact absurd (hij.symm.trans hik) hjk

end Holds

/-! ## What a command does -/

/-- What a command can do: leave all hashers alone, add one with a buffer of its own, or change the
one that it names. -/
inductive Moves (b : Hashers c) (chunks : List (List Bytes)) (command : Command) :
    Hashers c → List (List Bytes) → Prop
  | stays {m' : Memory} (hf : b.memory.Frame m' none) :
    Moves b chunks command { b with memory := m' } chunks
  | adds {r : Placed c × Memory} {cs : List Bytes} (hf : b.memory.Frame r.2 none)
    (hnew : b.memory.size ≤ r.1.address) (hbound : r.1.address < r.2.size)
    (hfed : (r.1.view r.2).Fed cs.flatten) : Moves b chunks command (b.add r).2 (chunks ++ [cs])
  | puts {i : Nat} {p : Placed c} {r : Placed c × Memory} {cs : List Bytes}
    (hc : command.changed? = some i) (hp : b.placed[i]? = some p)
    (hf : b.memory.Frame r.2 (some p.address))
    (hown : r.1.address = p.address ∨ b.memory.size ≤ r.1.address)
    (hbound : r.1.address < r.2.size) (hfed : (r.1.view r.2).Fed cs.flatten) :
    Moves b chunks command (b.put i r).2 (chunks.set i cs)

variable {b : Hashers c} {chunks : List (List Bytes)}

theorem Moves.refl (b : Hashers c) (chunks : List (List Bytes)) (command : Command) :
    Moves b chunks command b chunks := .stays (.refl _ _)

theorem Holds.moves (h : b.Holds chunks) (command : Command) :
    Moves b chunks command (b.perform command).2 (command.record chunks) := by
  cases command with
  | create data =>
    have hframe : b.memory.Frame (b.memory.allocate []) none := (Memory.Frame.refl _ _).allocate _
    have hin : (Placed.create c b.memory).1.address < (Placed.create c b.memory).2.size :=
      Placed.address_create_lt _
    refine .adds (hframe.write (.inl (Nat.le_refl _)) _) (Nat.le_refl _) ?_ ?_
    · rw [Placed.size_update]
      exact hin
    · rw [Placed.view_update hin, Placed.view_create, List.flatten_singleton]
      exact Hasher.fed_empty.update data
  | update i data =>
    rw [perform, Command.record]
    cases hp : b.placed[i]? with
    | none =>
      rw [withPlaced_of_none hp, List.modify_eq_self (h.le_of_none hp)]
      exact .refl _ _ _
    | some p =>
      obtain ⟨cs, hcs⟩ := h.exists_chunks hp
      rw [withPlaced_of_some hp, List.modify_eq_set, hcs, Option.getD_some]
      refine .puts rfl hp (p.frame_update _ data) (.inl rfl) ?_ ?_
      · rw [Placed.size_update, Placed.address_update]
        exact h.bound hp
      · rw [Placed.view_update (h.bound hp), List.flatten_concat]
        exact (h.fed hp hcs).update data
  | copy i =>
    rw [perform, Command.record]
    cases hp : b.placed[i]? with
    | none =>
      rw [withPlaced_of_none hp, List.getElem?_eq_none (h.le_of_none hp), Option.toList_none,
        List.append_nil]
      exact .refl _ _ _
    | some p =>
      obtain ⟨cs, hcs⟩ := h.exists_chunks hp
      rw [withPlaced_of_some hp, hcs, Option.toList_some]
      refine .adds ((Memory.Frame.refl _ _).allocate _) (Nat.le_refl _) (p.address_copy_lt _) ?_
      rw [Placed.view_copy]
      exact h.fed hp hcs
  | clear i =>
    rw [perform, Command.record]
    cases hp : b.placed[i]? with
    | none =>
      rw [withPlaced_of_none hp, List.set_eq_of_length_le (h.le_of_none hp)]
      exact .refl _ _ _
    | some p =>
      have hnew : b.memory.size ≤ (p.clear b.memory).1.address :=
        Nat.le_of_eq (p.address_clear _).symm
      rw [withPlaced_of_some hp]
      refine .puts rfl hp (p.frame_clear _) (.inr hnew) (Placed.address_create_lt _) ?_
      rw [Placed.view_clear]
      exact Hasher.fed_empty
  | digest i | hexDigest i =>
    rw [perform, Command.record]
    cases hp : b.placed[i]? with
    | none =>
      rw [withPlaced_of_none hp]
      exact .refl _ _ _
    | some p =>
      rw [withPlaced_of_some hp]
      exact .stays (p.frame_digest _)

/-- **One command** keeps the hashers apart and does to their messages what it records. -/
theorem Holds.perform (h : b.Holds chunks) (command : Command) :
    (b.perform command).2.Holds (command.record chunks) := by
  have hm := h.moves command
  generalize (b.perform command).2 = b', command.record chunks = chunks' at hm ⊢
  cases hm with
  | stays hf => exact h.memory hf
  | adds hf hnew hbound hfed => exact h.add hf hnew hbound hfed
  | puts _ hp hf hown hbound hfed => exact h.put hp hf hown hbound hfed

/-- **A sequence of commands** does the same, from no hashers on. -/
theorem holds_run (c : Construction) (commands : List Command) :
    ((Hashers.empty c).run commands).Holds (recorded commands) := by
  induction commands using List.reverseRecOn with
  | nil => exact Holds.empty c
  | append_singleton commands command ih =>
    rw [run, recorded, List.foldl_append, List.foldl_append]
    exact ih.perform command

/-- A command changes no hasher but the one that it names. -/
theorem Holds.view_perform (h : b.Holds chunks) {command : Command} {j : Nat}
    (hj : j < b.placed.length) (hne : command.changed? ≠ some j) :
    (b.perform command).2.view j = b.view j := by
  obtain ⟨q, hq⟩ : ∃ q, b.placed[j]? = some q := ⟨_, List.getElem?_eq_getElem hj⟩
  have hm := h.moves command
  generalize (b.perform command).2 = b', command.record chunks = chunks' at hm ⊢
  cases hm with
  | stays hf => exact h.view_of_frame hq hq hf (Option.some_ne_none _).symm
  | @adds r _ hf =>
    have hq' : (b.add r).2.placed[j]? = some q := by rw [Hashers.add, List.getElem?_append_left hj, hq]
    exact h.view_of_frame hq hq' hf (Option.some_ne_none _).symm
  | @puts i p r _ hc hp hf =>
    have hij : i ≠ j := fun he => hne (by rw [hc, he])
    have hq' : (b.put i r).2.placed[j]? = some q := by rw [Hashers.put, List.getElem?_set_ne hij, hq]
    exact h.view_of_frame hq hq' hf fun he => h.distinct hp hq hij (Option.some.inj he)

/-! ## What is answered -/

theorem answer_digest (b : Hashers c) (i : Nat) :
    (b.perform (.digest i)).1 = (b.view i).elim .missing fun h => .digest h.digest := by
  rw [perform, view]
  cases hp : b.placed[i]? with
  | none => rw [withPlaced_of_none hp]; rfl
  | some p => rw [withPlaced_of_some hp]; exact congrArg Answer.digest (p.digest_fst _)

theorem answer_hexDigest (b : Hashers c) (i : Nat) :
    (b.perform (.hexDigest i)).1 = (b.view i).elim .missing fun h => .hex (Bytes.toHex h.digest) := by
  rw [perform, view]
  cases hp : b.placed[i]? with
  | none => rw [withPlaced_of_none hp]; rfl
  | some p =>
    rw [withPlaced_of_some hp]
    exact congrArg (fun bs => Answer.hex (Bytes.toHex bs)) (p.digest_fst _)

theorem Holds.exists_view (h : b.Holds chunks) {i : Nat} {cs : List Bytes}
    (hcs : chunks[i]? = some cs) : ∃ hasher, b.view i = some hasher ∧ hasher.Fed cs.flatten := by
  obtain ⟨p, hp⟩ := h.exists_placed hcs
  exact ⟨p.view b.memory, by rw [view, hp, Option.map_some], h.fed hp hcs⟩

theorem placed_digest (b : Hashers c) (i : Nat) :
    (b.perform (.digest i)).2.placed = b.placed ∧ (b.perform (.hexDigest i)).2.placed = b.placed := by
  rw [perform, perform]
  cases hp : b.placed[i]? with
  | none => rw [withPlaced_of_none hp, withPlaced_of_none hp]; exact ⟨rfl, rfl⟩
  | some p => rw [withPlaced_of_some hp, withPlaced_of_some hp]; exact ⟨rfl, rfl⟩

/-- **Piecewise hashing is hashing in one piece**, whatever is done with any number of hashers: each
digest is the one of the chunks that its hasher was fed, reading a digest changes no hasher, and no
command changes another hasher than the one that it names, nor what that one answers. -/
theorem digest_run (a : Algorithm) (commands : List Command) :
    let b := (Hashers.empty a.construction).run commands
    b.placed.length = (recorded commands).length ∧
    (∀ i cs, (recorded commands)[i]? = some cs →
      (b.perform (.digest i)).1 = .digest (hash a cs.flatten).value ∧
      (b.perform (.hexDigest i)).1 = .hex (hash a cs.flatten).value.toHex) ∧
    (∀ i j, (b.perform (.digest i)).2.view j = b.view j ∧
      (b.perform (.hexDigest i)).2.view j = b.view j) ∧
    ∀ command j, j < b.placed.length → command.changed? ≠ some j →
      (b.perform command).2.view j = b.view j ∧
      ((b.perform command).2.perform (.digest j)).1 = (b.perform (.digest j)).1 ∧
      ((b.perform command).2.perform (.hexDigest j)).1 = (b.perform (.hexDigest j)).1 := by
  intro b
  have h : b.Holds (recorded commands) := holds_run a.construction commands
  refine ⟨h.length_eq, fun i cs hcs => ?_, fun i j => ?_, fun command j hj hne => ?_⟩
  · obtain ⟨hasher, hview, hfed⟩ := h.exists_view hcs
    rw [answer_digest, answer_hexDigest, hview, Option.elim_some, Option.elim_some, hfed.digest_eq]
    exact ⟨rfl, rfl⟩
  · by_cases hj : j < b.placed.length
    · exact ⟨h.view_perform hj (Option.some_ne_none _).symm,
        h.view_perform hj (Option.some_ne_none _).symm⟩
    · have hnone : b.placed[j]? = none := List.getElem?_eq_none (by omega)
      obtain ⟨h1, h2⟩ := b.placed_digest i
      rw [view, view, view, h1, h2, hnone]
      exact ⟨rfl, rfl⟩
  · have hview := h.view_perform hj hne
    rw [answer_digest, answer_digest, answer_hexDigest, answer_hexDigest, hview]
    exact ⟨rfl, rfl, rfl⟩

/-- Two chunks that end a byte behind a block, copied before the original is begun again. -/
theorem digest_run_copied :
    let commands := [.create [1, 2], .update 0 (List.replicate 63 3), .copy 0, .clear 0,
      .update 0 [5], .update 1 [4]]
    let b := (Hashers.empty Algorithm.sha256.construction).run commands
    recorded commands = [[[5]], [[1, 2], List.replicate 63 3, [4]]] ∧
    (b.perform (.digest 0)).1 = .digest (hash .sha256 [5]).value ∧
    (b.perform (.digest 1)).1 =
      .digest (hash .sha256 ([1, 2] ++ List.replicate 63 3 ++ [4])).value ∧
    ((b.perform (.clear 0)).2.perform (.digest 1)).1 = (b.perform (.digest 1)).1 := by
  intro commands b
  have hrecorded : recorded commands = [[[5]], [[1, 2], List.replicate 63 3, [4]]] := by decide
  obtain ⟨hlength, hanswer, -, hother⟩ := digest_run .sha256 commands
  rw [hrecorded] at hlength hanswer
  exact ⟨hrecorded, (hanswer 0 _ rfl).1, (hanswer 1 _ rfl).1,
    (hother (.clear 0) 1 (hlength ▸ by decide) (by decide)).2.1⟩

end Hashers

end Airgap.Digest
