import Airgap.Digest.Algorithm

/-!
# Hashers that share a memory

Several hashers of one construction are fed, copied, cleared and read in any order. Their waiting
bytes lie in buffers that are changed in place, so that a hasher is told apart from its copies only by
having a buffer of its own.

* `Memory`: buffers by address.
* `Placed`: a hasher whose waiting bytes lie in a buffer; `Placed.view` is the hasher itself.
* `Hashers.perform`: what a command answers and leaves behind.
-/

namespace Airgap.Digest

/-! ## Buffers -/

/-- Buffers by address. -/
structure Memory where
  buffers : List Bytes

namespace Memory

/-- No buffers yet. -/
def empty : Memory := ⟨[]⟩

/-- The number of buffers, the first address that is not in use. -/
def size (m : Memory) : Nat := m.buffers.length

/-- The content of a buffer. -/
def read (m : Memory) (address : Nat) : Bytes := m.buffers.getD address []

/-- The memory with one more buffer, at the address `m.size`. -/
def allocate (m : Memory) (content : Bytes) : Memory := ⟨m.buffers ++ [content]⟩

/-- The memory after a buffer is overwritten. -/
def write (m : Memory) (address : Nat) (content : Bytes) : Memory :=
  ⟨m.buffers.set address content⟩

@[simp] theorem size_allocate (m : Memory) (content : Bytes) :
    (m.allocate content).size = m.size + 1 := List.length_append

@[simp] theorem size_write (m : Memory) (address : Nat) (content : Bytes) :
    (m.write address content).size = m.size := List.length_set

theorem read_allocate (m : Memory) (content : Bytes) : (m.allocate content).read m.size = content := by
  simp [read, allocate, size]

theorem read_allocate_of_lt {m : Memory} {address : Nat} (h : address < m.size) (content : Bytes) :
    (m.allocate content).read address = m.read address := by
  simp only [read, allocate, List.getD_eq_getElem?_getD]
  rw [List.getElem?_append_left h]

theorem read_write {m : Memory} {address : Nat} (h : address < m.size) (content : Bytes) :
    (m.write address content).read address = content := by
  simp only [read, write, List.getD_eq_getElem?_getD]
  rw [List.getElem?_set_self h]
  rfl

theorem read_write_of_ne {m : Memory} {address other : Nat} (h : other ≠ address)
    (content : Bytes) : (m.write address content).read other = m.read other := by
  simp only [read, write, List.getD_eq_getElem?_getD]
  rw [List.getElem?_set_ne h.symm]

end Memory

/-! ## One hasher -/

variable {c : Construction}

/-- A hasher whose waiting bytes lie in a buffer. -/
structure Placed (c : Construction) where
  state : c.State
  /-- The address of the buffer. -/
  address : Nat
  length : Nat

namespace Placed

/-- The hasher with the bytes that wait in its buffer. -/
def view (p : Placed c) (m : Memory) : Hasher c := ⟨p.state, m.read p.address, p.length⟩

/-- A hasher that nothing is fed to yet, in a new buffer. -/
def create (c : Construction) (m : Memory) : Placed c × Memory :=
  (⟨c.initial, m.size, 0⟩, m.allocate [])

/-- Feeds more message bytes: the buffer is extended, and what is compressed is cut off it. -/
def update (p : Placed c) (data : Bytes) (m : Memory) : Placed c × Memory :=
  let h := (p.view m).update data
  (⟨h.state, p.address, h.length⟩, m.write p.address h.pending)

/-- A second hasher with the same state, in a new buffer. -/
def copy (p : Placed c) (m : Memory) : Placed c × Memory :=
  ({ p with address := m.size }, m.allocate (m.read p.address))

/-- The hasher begun again in a new buffer; the one that it had is overwritten with zeros. -/
def clear (p : Placed c) (m : Memory) : Placed c × Memory :=
  create c (m.write p.address (List.replicate (m.read p.address).length 0))

/-- The digest of everything fed so far. It is computed in a copy, whose buffer takes the padding and
is cleared in the end. -/
def digest (p : Placed c) (m : Memory) : Bytes × Memory :=
  let tail := p.copy m
  let h := tail.1.view tail.2
  (h.digest, (tail.1.clear (tail.2.write tail.1.address h.closed)).2)

end Placed

/-! ## Several hashers -/

/-- What is asked of hashers that are known by number. -/
inductive Command where
  /-- A new hasher, fed its first bytes. -/
  | create (data : Bytes)
  | update (i : Nat) (data : Bytes)
  /-- A new hasher, copied from another. -/
  | copy (i : Nat)
  | clear (i : Nat)
  | digest (i : Nat)
  | hexDigest (i : Nat)
  deriving DecidableEq, Repr

/-- What a command answers. -/
inductive Answer where
  /-- The number of a new hasher. -/
  | number (i : Nat)
  | done
  | digest (bs : Bytes)
  | hex (s : String)
  /-- There is no hasher of that number. -/
  | missing
  deriving DecidableEq, Repr

/-- Hashers by number, and the memory that they share. -/
structure Hashers (c : Construction) where
  memory : Memory
  placed : List (Placed c)

namespace Hashers

/-- No hashers yet. -/
def empty (c : Construction) : Hashers c := ⟨.empty, []⟩

/-- The hasher of a number. -/
def view (b : Hashers c) (i : Nat) : Option (Hasher c) := b.placed[i]?.map (·.view b.memory)

/-- One more hasher. -/
def add (b : Hashers c) (r : Placed c × Memory) : Answer × Hashers c :=
  (.number b.placed.length, ⟨r.2, b.placed ++ [r.1]⟩)

/-- A hasher changed. -/
def put (b : Hashers c) (i : Nat) (r : Placed c × Memory) : Answer × Hashers c :=
  (.done, ⟨r.2, b.placed.set i r.1⟩)

/-- What is done with the hasher of a number, if there is one. -/
def withPlaced (b : Hashers c) (i : Nat) (f : Placed c → Answer × Hashers c) : Answer × Hashers c :=
  match b.placed[i]? with
  | some p => f p
  | none => (.missing, b)

/-- What a command answers, and what it leaves behind. -/
def perform (b : Hashers c) : Command → Answer × Hashers c
  | .create data =>
    let fresh := Placed.create c b.memory
    b.add (fresh.1.update data fresh.2)
  | .update i data => b.withPlaced i fun p => b.put i (p.update data b.memory)
  | .copy i => b.withPlaced i fun p => b.add (p.copy b.memory)
  | .clear i => b.withPlaced i fun p => b.put i (p.clear b.memory)
  | .digest i => b.withPlaced i fun p =>
    let r := p.digest b.memory
    (.digest r.1, { b with memory := r.2 })
  | .hexDigest i => b.withPlaced i fun p =>
    let r := p.digest b.memory
    (.hex (Bytes.toHex r.1), { b with memory := r.2 })

/-- What a sequence of commands leaves behind. -/
def run (b : Hashers c) (commands : List Command) : Hashers c :=
  commands.foldl (fun b command => (b.perform command).2) b

end Hashers

end Airgap.Digest
