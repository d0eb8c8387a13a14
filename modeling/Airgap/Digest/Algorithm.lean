import Airgap.Digest.Ripemd160
import Airgap.Digest.Sha2

/-!
# The hash algorithms by name
-/

namespace Airgap.Digest

/-- The hash functions of the toolkit. -/
inductive Algorithm where
  | sha256
  | sha512
  | ripemd160
  deriving DecidableEq, Repr

namespace Algorithm

/-- All algorithms. -/
def all : List Algorithm := [.sha256, .sha512, .ripemd160]

/-- The name of an algorithm. -/
def name : Algorithm → String
  | .sha256 => "sha256"
  | .sha512 => "sha512"
  | .ripemd160 => "ripemd160"

/-- The algorithm of a name. -/
def ofName? (s : String) : Option Algorithm := all.find? (·.name == s)

/-- How an algorithm processes blocks. -/
def construction : Algorithm → Construction
  | .sha256 => Digest.sha256
  | .sha512 => Digest.sha512
  | .ripemd160 => Digest.ripemd160

/-- Bytes in a digest. -/
def digestSize (a : Algorithm) : Nat := a.construction.digestSize

/-- Bytes in a block. -/
def blockSize (a : Algorithm) : Nat := a.construction.blockSize

theorem digestSize_le_blockSize (a : Algorithm) : a.digestSize ≤ a.blockSize := by
  cases a <;> decide

theorem digestSize_pos (a : Algorithm) : 0 < a.digestSize := by cases a <;> decide

theorem blockSize_pos (a : Algorithm) : 0 < a.blockSize := by cases a <;> decide

end Algorithm

end Airgap.Digest

namespace Airgap

/-- A digest together with the algorithm that it belongs to. -/
structure Digest where
  algorithm : Digest.Algorithm
  value : Bytes
  length_value : value.length = algorithm.digestSize

namespace Digest

/-- The bytes as a digest of the algorithm, if they have its size. -/
def ofBytes? (a : Algorithm) (value : Bytes) : Option Digest :=
  if h : value.length = a.digestSize then some ⟨a, value, h⟩ else none

instance : DecidableEq Digest := fun d e =>
  if h : d.algorithm = e.algorithm ∧ d.value = e.value then
    isTrue (by cases d; cases e; simp only at h; cases h.1; cases h.2; rfl)
  else isFalse (by intro he; cases he; exact h ⟨rfl, rfl⟩)

/-- The digest of a complete message. -/
def hash (a : Algorithm) (message : Bytes) : Digest :=
  ⟨a, a.construction.hash message, a.construction.length_hash message⟩

/-- SHA-256 twice, as in checksums. -/
def doubleSha256 (message : Bytes) : Bytes := sha256.hash (sha256.hash message)

/-- RIPEMD-160 of SHA-256, as in key identifiers. -/
def hash160 (message : Bytes) : Bytes := ripemd160.hash (sha256.hash message)

@[simp] theorem length_doubleSha256 (message : Bytes) : (doubleSha256 message).length = 32 :=
  sha256.length_hash _

@[simp] theorem length_hash160 (message : Bytes) : (hash160 message).length = 20 :=
  ripemd160.length_hash _

end Digest

end Airgap
