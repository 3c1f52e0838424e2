import HeaderRelay.Header

/-!
# Headers as nodes hold them

Full node software gives every field of a header a type of its own, so that a
block hash is never taken for a Merkle node or a compact target for a time.
What such a type is like is up to the node, except that a plain value which was
put into it can be taken out again.  The two forms of a header carry the same
facts.
-/

namespace HeaderRelay

/-- A type that holds plain values of one kind. -/
structure Wrapping (Plain : Type) where
  Wrapped : Type
  wrap : Plain → Wrapped
  unwrap : Wrapped → Plain
  unwrap_wrap : ∀ plain, unwrap (wrap plain) = plain

attribute [simp] Wrapping.unwrap_wrap

/-- The types that a node has for the fields of a header. -/
structure NodeTypes where
  version : Wrapping Int32
  blockHash : Wrapping Hash
  merkleNode : Wrapping Hash
  compactTarget : Wrapping UInt32

/-- The version number of a block. -/
structure BlockVersion where
  number : Int32
  deriving DecidableEq

/-- The hash of a block. -/
structure BlockHash where
  hash : Hash
  deriving DecidableEq

/-- A node of a transaction Merkle tree. -/
structure MerkleNode where
  hash : Hash
  deriving DecidableEq

/-- A target in compact form. -/
structure CompactTarget where
  bits : UInt32
  deriving DecidableEq

/-- Types that hold a plain value and nothing else. -/
def NodeTypes.bare : NodeTypes where
  version := ⟨BlockVersion, .mk, BlockVersion.number, fun _ => rfl⟩
  blockHash := ⟨BlockHash, .mk, BlockHash.hash, fun _ => rfl⟩
  merkleNode := ⟨MerkleNode, .mk, MerkleNode.hash, fun _ => rfl⟩
  compactTarget := ⟨CompactTarget, .mk, CompactTarget.bits, fun _ => rfl⟩

/-- A header whose fields have types of their own. -/
structure NodeHeader (types : NodeTypes) where
  version : types.version.Wrapped
  previous : types.blockHash.Wrapped
  merkleRoot : types.merkleNode.Wrapped
  time : UInt32
  target : types.compactTarget.Wrapped
  nonce : UInt32

namespace Header

/-- The header with the types of a node. -/
def toNodeOf (types : NodeTypes) (header : Header) : NodeHeader types where
  version := types.version.wrap header.version
  previous := types.blockHash.wrap header.previous
  merkleRoot := types.merkleNode.wrap header.merkleRoot
  time := header.time
  target := types.compactTarget.wrap header.bits
  nonce := header.nonce

/-- The header with bare types. -/
def toNode (header : Header) : NodeHeader .bare :=
  header.toNodeOf .bare

def ofNode {types : NodeTypes} (node : NodeHeader types) : Header where
  version := types.version.unwrap node.version
  previous := types.blockHash.unwrap node.previous
  merkleRoot := types.merkleNode.unwrap node.merkleRoot
  time := node.time
  bits := types.compactTarget.unwrap node.target
  nonce := node.nonce

end Header

end HeaderRelay
