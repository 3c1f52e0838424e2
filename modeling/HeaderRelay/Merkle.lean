import HeaderRelay.Error

/-!
# Merkle trees

The tree over the transaction ids of a block.  A level with an odd number of
nodes pairs its last node with itself.  A branch lists the siblings on the way
from a leaf to the root, the deepest first; the bits of the leaf's index, lowest
first, tell on which side each sibling stands.
-/

namespace HeaderRelay.Merkle

/-- The level above a level. -/
def parents : List Hash → List Hash
  | left :: right :: rest => left.pair right :: parents rest
  | [last] => [last.pair last]
  | [] => []

@[simp] theorem length_parents (level : List Hash) :
    (parents level).length = (level.length + 1) / 2 := by
  fun_induction parents level with
  | case1 left right rest ih =>
      simp only [List.length_cons, ih]
      omega
  | case2 => simp
  | case3 => rfl

/-- The root of the tree over the given leaves, `none` without leaves. -/
def root? : (leaves : List Hash) → Option Hash
  | [] => none
  | [root] => some root
  | first :: second :: rest => root? (parents (first :: second :: rest))
termination_by leaves => leaves.length
decreasing_by
  simp only [length_parents, List.length_cons]
  omega

/-- The node paired with the node at a position: the one before it, the one
after it or, at the end of an odd level, itself. -/
def sibling (level : List Hash) (position : Nat) (inside : position < level.length) : Hash :=
  if position % 2 = 1 then level[position - 1]
  else if next : position + 1 < level.length then level[position + 1]
  else level[position]

/-- The siblings from the node at a position up to the root. -/
def siblings (level : List Hash) (position : Nat) (inside : position < level.length) :
    List Hash :=
  if single : level.length = 1 then []
  else
    sibling level position inside ::
      siblings (parents level) (position / 2) (by rw [length_parents]; omega)
termination_by level.length
decreasing_by
  rw [length_parents]
  omega

/-- The branch of the leaf at an index, if there is such a leaf. -/
def branch? (leaves : List Hash) (index : Nat) : Option (List Hash) :=
  if inside : index < leaves.length then some (siblings leaves index inside) else none

/-- The root that a branch leads to from a node at a position. -/
def climb (node : Hash) : (branch : List Hash) → (position : Nat) → Hash
  | [], _ => node
  | sibling :: rest, position =>
      climb (if position % 2 = 1 then sibling.pair node else node.pair sibling) rest
        (position / 2)

@[simp] theorem climb_nil (node : Hash) (position : Nat) : climb node [] position = node := rfl

/-- Checks that `leaf` stands at `index` under `root`.

Without siblings only the root itself at index zero is accepted, and an index
with more bits than the branch has levels is refused. -/
def verify (leaf root : Hash) (branch : List Hash) (index : UInt64) :
    Except ConsensusError Unit :=
  if branch = [] ∧ (index ≠ 0 ∨ leaf ≠ root) then .error .emptyProof
  else if index.toNat >>> branch.length ≠ 0 then
    .error (.invalidMerkleIndex index branch.length)
  else if climb leaf branch index.toNat ≠ root then .error (.rootMismatch root)
  else .ok ()

end HeaderRelay.Merkle
