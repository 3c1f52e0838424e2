import HeaderRelay.Hex
import HeaderRelay.Sha256

/-!
# Hashes

Block hashes, transaction ids and Merkle nodes: 32 bytes, kept in the order in
which they are hashed and sent.  People read them in the reverse order.
-/

namespace HeaderRelay

/-- A string of 32 bytes in wire order. -/
structure Hash where
  bytes : Bytes
  length_bytes : bytes.length = 32
  deriving DecidableEq

namespace Hash

attribute [simp] length_bytes

@[ext] theorem ext {left right : Hash} (same : left.bytes = right.bytes) : left = right := by
  cases left
  cases right
  simpa using same

/-- The hash with the given bytes, if there are 32 of them. -/
def ofBytes? (bytes : Bytes) : Option Hash :=
  if length : bytes.length = 32 then some ⟨bytes, length⟩ else none

@[simp] theorem ofBytes?_bytes (hash : Hash) : ofBytes? hash.bytes = some hash := by
  simp [ofBytes?]

theorem ofBytes?_eq_some_iff {bytes : Bytes} {hash : Hash} :
    ofBytes? bytes = some hash ↔ bytes = hash.bytes := by
  constructor
  · intro found
    unfold ofBytes? at found
    split at found
    · simp only [Option.some.injEq] at found
      simp [← found]
    · simp at found
  · rintro rfl
    simp

/-- The hash of zeros. -/
def zero : Hash :=
  ⟨List.replicate 32 0, by simp⟩

/-- SHA-256 applied twice. -/
def double (bytes : Bytes) : Hash :=
  ⟨Sha256.digest (Sha256.digest bytes), Sha256.length_digest _⟩

/-- The parent of two Merkle nodes. -/
def pair (left right : Hash) : Hash :=
  double (left.bytes ++ right.bytes)

/-- The same bytes in the other order. -/
def reverse (hash : Hash) : Hash :=
  ⟨hash.bytes.reverse, by simp⟩

@[simp] theorem bytes_reverse (hash : Hash) : hash.reverse.bytes = hash.bytes.reverse := rfl

@[simp] theorem reverse_reverse (hash : Hash) : hash.reverse.reverse = hash := by
  apply ext
  simp

/-- The hash as people read it, in some hex. -/
def displayWith (hex : Hex.Format) (hash : Hash) : String :=
  hex.encode hash.reverse.bytes

/-- The hash as people read it. -/
def display (hash : Hash) : String :=
  hash.displayWith .standard

/-- The hash as a number that can be held against a target. -/
def toNat (hash : Hash) : Nat :=
  hash.bytes.toNatLE

end Hash

end HeaderRelay
