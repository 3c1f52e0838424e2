import HeaderRelay.Proofs.Merkle.Inclusion

/-!
# What an accepted branch binds

Two branches of one length that climb to the same root from the same position hash
the same couples all the way down, or else they show two different couples with one
hash.  No assumption is made about the hash: the statements name the collision, by
its height, among the couples that were hashed.

Held against a tree, this leaves one leaf and one branch for each position.
-/

namespace HeaderRelay.Merkle

variable {level leaves : List Hash} {leaf other root : Hash} {branch otherBranch : List Hash}
variable {position place height : Nat} {index : UInt64}

/-! ## Couples on the way up -/

/-- The couple that a climb hashes at a height. -/
def folded (node : Hash) : (branch : List Hash) → (position height : Nat) → Option (Hash × Hash)
  | [], _, _ => none
  | sibling :: _, position, 0 => some (ordered position node sibling)
  | sibling :: rest, position, height + 1 =>
      folded (parent (ordered position node sibling)) rest (position / 2) height

/-- The couple of the tree that is above a leaf at a height. -/
def lineage (leaves : List Hash) (place height : Nat) : Option (Hash × Hash) :=
  couple? (nodes leaves height) (place / 2 ^ (height + 1))

theorem lineage_parents (leaves : List Hash) (place height : Nat) :
    lineage (parents leaves) (place / 2) height = lineage leaves place (height + 1) := by
  rw [lineage, lineage, nodes_parents, Nat.div_div_eq_div_mul, ← Nat.pow_succ']

theorem height_lt_of_folded {couple : Hash × Hash}
    (found : folded leaf branch position height = some couple) : height < branch.length := by
  induction branch generalizing leaf position height with
  | nil => cases found
  | cons sibling rest ih =>
      cases height with
      | zero => exact Nat.zero_lt_succ _
      | succ height => exact Nat.succ_lt_succ (ih found)

/-- The branch of a leaf hashes the couples of the tree. -/
theorem folded_siblings (inside : place < level.length)
    (shown : original level.length position = place) (below : height < depth level) :
    folded level[place] (siblings level place inside) position height =
      lineage level place height := by
  induction level using induction_on_levels generalizing place position height with
  | empty => cases inside
  | top node =>
      rw [depth_singleton] at below
      cases below
  | below level many ih =>
      obtain ⟨half, sides⟩ := original_step many shown
      have above := half_lt_length_parents inside
      rw [siblings_of_many many inside above]
      cases height with
      | zero =>
          rw [folded, lineage, Nat.zero_add, Nat.pow_one, nodes]
          exact (couple?_eq_ordered inside sides).symm
      | succ height =>
          rw [← length_parents] at half
          rw [depth_of_many many] at below
          rw [folded, ← getElem_parents inside sides above, ih above half (by omega),
            lineage_parents]

/-! ## Collisions -/

/-- Whether at some height two different couples have one hash. -/
def Collide (first second : Nat → Option (Hash × Hash)) : Prop :=
  ∃ height one other, first height = some one ∧ second height = some other ∧
    one ≠ other ∧ parent one = parent other

theorem ordered_inj {sibling otherSibling : Hash} :
    ordered position leaf sibling = ordered position other otherSibling ↔
      leaf = other ∧ sibling = otherSibling := by
  unfold ordered
  split
  next => rw [Prod.mk.injEq, and_comm]
  next => rw [Prod.mk.injEq]

/-- Climbs of one length that end at the same node started alike, or collide. -/
theorem eq_or_collide (sameLength : branch.length = otherBranch.length)
    (sameEnd : climb leaf branch position = climb other otherBranch position) :
    leaf = other ∧ branch = otherBranch ∨
      Collide (folded leaf branch position) (folded other otherBranch position) := by
  induction branch generalizing leaf other otherBranch position with
  | nil =>
      obtain rfl := List.eq_nil_of_length_eq_zero sameLength.symm
      exact .inl ⟨sameEnd, rfl⟩
  | cons sibling rest ih =>
      cases otherBranch with
      | nil => cases sameLength
      | cons otherSibling otherRest =>
          rw [climb_cons, climb_cons] at sameEnd
          rcases ih (Nat.succ.inj sameLength) sameEnd with ⟨sameParent, rfl⟩ | collision
          · by_cases sameCouple :
                ordered position leaf sibling = ordered position other otherSibling
            · obtain ⟨rfl, rfl⟩ := ordered_inj.mp sameCouple
              exact .inl ⟨rfl, rfl⟩
            · exact .inr ⟨0, _, _, rfl, rfl, sameCouple, sameParent⟩
          · obtain ⟨height, collision⟩ := collision
            exact .inr ⟨height + 1, collision⟩

/-- Under the root of a tree, a position has the leaf that it shows and the branch of
that leaf, or the climb collides with the tree. -/
theorem eq_siblings_or_collide (known : root? leaves = some root)
    (inside : place < leaves.length) (shown : original leaves.length index.toNat = place)
    (sameLength : branch.length = depth leaves)
    (accepted : verify leaf root branch index = .ok ()) :
    leaf = leaves[place] ∧ branch = siblings leaves place inside ∨
      Collide (folded leaf branch index.toNat) (lineage leaves place) := by
  obtain ⟨_, climbs⟩ := verify_eq_ok_iff.mp accepted
  have treeClimbs := Option.some.inj ((root?_eq_climb inside shown).symm.trans known)
  have lengths : branch.length = (siblings leaves place inside).length := by
    rw [length_siblings, sameLength]
  rcases eq_or_collide lengths (climbs.trans treeClimbs.symm) with same | collision
  · exact .inl same
  · obtain ⟨height, one, own, found, ownFound, different⟩ := collision
    have below : height < depth leaves := sameLength ▸ height_lt_of_folded found
    rw [folded_siblings inside shown below] at ownFound
    exact .inr ⟨height, one, own, found, ownFound, different⟩

/-- What is accepted under one root at one index, with branches of one length, is the
same, or the two climbs collide. In a tree, only the leaf of the index and its branch
are accepted, or the climb collides with the couples of the tree. -/
theorem accepted_proofs_bind {root : Hash} {index : UInt64} :
    (∀ {leaf other branch otherBranch}, branch.length = otherBranch.length →
      verify leaf root branch index = .ok () → verify other root otherBranch index = .ok () →
      leaf = other ∧ branch = otherBranch ∨
        Collide (folded leaf branch index.toNat) (folded other otherBranch index.toNat)) ∧
    ∀ {leaves leaf branch} (inside : index.toNat < leaves.length),
      root? leaves = some root → branch.length = Nat.clog 2 leaves.length →
      verify leaf root branch index = .ok () →
      leaf = leaves[index.toNat] ∧ branch? leaves index.toNat = some branch ∨
        Collide (folded leaf branch index.toNat) (lineage leaves index.toNat) := by
  constructor
  · intro leaf other branch otherBranch sameLength accepted otherAccepted
    obtain ⟨_, climbs⟩ := verify_eq_ok_iff.mp accepted
    obtain ⟨_, otherClimbs⟩ := verify_eq_ok_iff.mp otherAccepted
    exact eq_or_collide sameLength (climbs.trans otherClimbs.symm)
  · intro leaves leaf branch inside known sameLength accepted
    have shown := original_of_lt inside
    rcases eq_siblings_or_collide known inside shown sameLength accepted with same | collision
    · obtain ⟨sameLeaf, rfl⟩ := same
      exact .inl ⟨sameLeaf, branch?_of_inside inside⟩
    · exact .inr collision

/-- The root over the three transactions. -/
def testRoot : Hash :=
  (testLeaves[0].pair testLeaves[1]).pair (testLeaves[2].pair testLeaves[2])

/-- The branch of the last of them. -/
def testBranch : List Hash :=
  [testLeaves[2], testLeaves[0].pair testLeaves[1]]

theorem root?_testLeaves : root? testLeaves = some testRoot := by
  simp [testLeaves, testRoot, root?, parents]

theorem verify_testBranch : verify testLeaves[2] testRoot testBranch 2 = .ok () :=
  verify_eq_ok_iff.mpr ⟨by decide, rfl⟩

theorem testBranch_binds :
    (2 : UInt64).toNat < testLeaves.length ∧ root? testLeaves = some testRoot ∧
      testBranch.length = Nat.clog 2 testLeaves.length ∧
      verify testLeaves[2] testRoot testBranch 2 = .ok () ∧
      verify testLeaves[2] testRoot (siblings testLeaves 2 (by decide)) 2 = .ok () ∧
      (testLeaves[2] = testLeaves[2] ∧ testBranch = siblings testLeaves 2 (by decide) ∨
        Collide (folded testLeaves[2] testBranch 2)
          (folded testLeaves[2] (siblings testLeaves 2 (by decide)) 2)) ∧
      (testLeaves[2] = testLeaves[2] ∧ branch? testLeaves 2 = some testBranch ∨
        Collide (folded testLeaves[2] testBranch 2) (lineage testLeaves 2)) := by
  have inside : (2 : UInt64).toNat < testLeaves.length := by decide
  have length : testBranch.length = Nat.clog 2 testLeaves.length := by decide
  have built : verify testLeaves[2] testRoot (siblings testLeaves 2 inside) 2 = .ok () :=
    verify_siblings root?_testLeaves inside (original_of_lt inside) (by decide)
  have sameLength : testBranch.length = (siblings testLeaves 2 inside).length := by
    rw [length_siblings, length, depth]
  exact ⟨inside, root?_testLeaves, length, verify_testBranch, built,
    accepted_proofs_bind.1 sameLength verify_testBranch built,
    accepted_proofs_bind.2 inside root?_testLeaves length verify_testBranch⟩

end HeaderRelay.Merkle
