import HeaderRelay.Header

/-!
# Inclusion proofs

What a relayer submits for one transaction.  The branch and the headers travel
as byte strings of fixed-width records and are taken apart only when the proof
is checked, so a proof can also carry strings of a wrong length.
-/

namespace HeaderRelay

structure Proof where
  /-- The transaction id. -/
  txid : Hash
  /-- The siblings of the Merkle branch, the deepest first. -/
  branch : Bytes
  /-- The position of the transaction in its block. -/
  index : UInt32
  /-- The headers, from the block of the transaction upwards. -/
  headers : Bytes
  deriving DecidableEq

namespace Proof

/-- The bytes of a branch. -/
def encodeBranch (siblings : List Hash) : Bytes :=
  siblings.flatMap Hash.bytes

/-- Cuts `count` hashes off a byte string of that many records. -/
def hashes : (count : Nat) → (bytes : Bytes) → bytes.length = 32 * count → List Hash
  | 0, _, _ => []
  | count + 1, bytes, length =>
      ⟨bytes.take 32, by rw [List.length_take, length]; omega⟩ ::
        hashes count (bytes.drop 32) (by rw [List.length_drop, length]; omega)

/-- Reads a branch of any number of siblings, none included. -/
def decodeBranch (bytes : Bytes) : Except MalformedInput (List Hash) :=
  if whole : bytes.length % 32 = 0 then
    .ok (hashes (bytes.length / 32) bytes (by omega))
  else .error (.branchLength bytes.length)

/-- The siblings of the branch. -/
def siblings (proof : Proof) : Except MalformedInput (List Hash) :=
  decodeBranch proof.branch

/-- The headers of the chain. -/
def chain (proof : Proof) : Except MalformedInput (List Header) :=
  Header.decodeChain proof.headers

end Proof

end HeaderRelay
