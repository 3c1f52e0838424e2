import HeaderRelay.Proofs.Merkle.Binding

/-!
# Positions without a transaction

The verification of a branch knows the depth of the tree and not the number of
leaves.  An index is refused from the power of two on that the depth makes room
for; the positions between the last leaf and that power are not.  Each of them is
accepted for the leaf that was copied there, and, collisions apart, for nothing
else.  So an accepted index names a leaf in those trees alone whose leaves fill them.
-/

namespace HeaderRelay.Merkle

variable {leaves : List Hash} {leaf root : Hash} {branch : List Hash} {place : Nat}
variable {index : UInt64}

theorem branch?_eq_some_iff :
    branch? leaves place = some branch ↔
      ∃ inside : place < leaves.length, siblings leaves place inside = branch := by
  unfold branch?
  split
  next inside => simp [inside]
  next outside => simp [outside]

theorem length_of_branch? (built : branch? leaves place = some branch) :
    branch.length = depth leaves := by
  obtain ⟨inside, rfl⟩ := branch?_eq_some_iff.mp built
  exact length_siblings inside

/-- Whether a position shows a leaf, and a branch is that of the leaf. -/
def Shows (leaves : List Hash) (position : Nat) (leaf : Hash) (branch : List Hash) : Prop :=
  leaves[original leaves.length position]? = some leaf ∧
    branch? leaves (original leaves.length position) = some branch

theorem original_lt_of_root? (known : root? leaves = some root) (position : Nat) :
    original leaves.length position < leaves.length := by
  have nonempty : leaves ≠ [] := by
    rintro rfl
    rw [root?_eq_none_iff.mpr rfl] at known
    cases known
  exact original_lt (List.length_pos_iff.mpr nonempty) position

/-- Every position of the tree is accepted for the leaf that it shows. -/
theorem exists_accepted (known : root? leaves = some root)
    (bounded : index.toNat < 2 ^ depth leaves) :
    ∃ leaf branch, Shows leaves index.toNat leaf branch ∧
      verify leaf root branch index = .ok () := by
  have inside := original_lt_of_root? known index.toNat
  exact ⟨_, _, ⟨List.getElem?_eq_getElem inside, branch?_of_inside inside⟩,
    verify_siblings known inside rfl bounded⟩

/-- Which positions are accepted under the root of a tree. -/
structure AcceptsPositions (leaves : List Hash) (root : Hash) : Prop where
  /-- The branch of a leaf is accepted at the positions of leaves alone exactly when the
  leaves fill the tree. -/
  inside_iff :
    (∀ place leaf branch (index : UInt64), leaves[place]? = some leaf →
      branch? leaves place = some branch → verify leaf root branch index = .ok () →
      index.toNat < leaves.length) ↔
    leaves.length = 2 ^ Nat.clog 2 leaves.length
  /-- What is accepted at a position is what the position shows, or the climb collides
  with the tree. -/
  shown : ∀ leaf branch (index : UInt64), branch.length = Nat.clog 2 leaves.length →
    verify leaf root branch index = .ok () →
    index.toNat < 2 ^ Nat.clog 2 leaves.length ∧
      (Shows leaves index.toNat leaf branch ∨
        Collide (folded leaf branch index.toNat)
          (lineage leaves (original leaves.length index.toNat)))
  /-- What a position of the tree shows is accepted there, also past the last leaf. -/
  accepted : ∀ index : UInt64, index.toNat < 2 ^ Nat.clog 2 leaves.length →
    ∃ leaf branch, Shows leaves index.toNat leaf branch ∧ verify leaf root branch index = .ok ()

/-- An accepted index names a leaf of the list if and only if the number of leaves is a
power of two. Otherwise every position up to the next power of two is accepted as
well, for the leaf that is copied there. -/
theorem accepted_positions (known : root? leaves = some root) (short : leaves.length < 2 ^ 64) :
    AcceptsPositions leaves root where
  inside_iff := by
    constructor
    · intro inside
      by_contra unfilled
      -- The first position past the leaves shows a copy, and is accepted for it.
      have room : leaves.length < 2 ^ depth leaves :=
        Nat.lt_of_le_of_ne (length_le_two_pow_depth leaves) unfilled
      have next : (UInt64.ofNat leaves.length).toNat = leaves.length :=
        UInt64.toNat_ofNat_of_lt' short
      have bounded : (UInt64.ofNat leaves.length).toNat < 2 ^ depth leaves := by rwa [next]
      obtain ⟨leaf, branch, ⟨found, built⟩, accepted⟩ := exists_accepted known bounded
      have contained := inside _ leaf branch _ found built accepted
      rw [next] at contained
      exact Nat.lt_irrefl _ contained
    · intro filled place leaf branch index _ built accepted
      obtain ⟨bounded, _⟩ := verify_eq_ok_iff.mp accepted
      rw [length_of_branch? built] at bounded
      rwa [filled]
  shown := by
    intro leaf branch index sameLength accepted
    obtain ⟨bounded, _⟩ := verify_eq_ok_iff.mp accepted
    refine ⟨sameLength ▸ bounded, ?_⟩
    have inside := original_lt_of_root? known index.toNat
    rcases eq_siblings_or_collide known inside rfl sameLength accepted with same | collision
    · obtain ⟨rfl, rfl⟩ := same
      exact .inl ⟨List.getElem?_eq_getElem inside, branch?_of_inside inside⟩
    · exact .inr collision
  accepted := fun _ bounded => exists_accepted known bounded

theorem testLeaves_accepted_positions :
    root? testLeaves = some testRoot ∧ testLeaves.length < 2 ^ 64 ∧
      AcceptsPositions testLeaves testRoot := by
  have short : testLeaves.length < 2 ^ 64 := by decide
  exact ⟨root?_testLeaves, short, accepted_positions root?_testLeaves short⟩

theorem branch?_testLeaves : branch? testLeaves 2 = some testBranch := by
  simp [testLeaves, testBranch, branch?, siblings, sibling, parents]

/-- The last of three transactions is accepted as the fourth one. -/
theorem testLeaves_accept_missing_position :
    root? testLeaves = some testRoot ∧ testLeaves[2]? = some testLeaves[2] ∧
      branch? testLeaves 2 = some testBranch ∧
      verify testLeaves[2] testRoot testBranch 3 = .ok () ∧
      ¬(3 : UInt64).toNat < testLeaves.length :=
  ⟨root?_testLeaves, rfl, branch?_testLeaves, verify_eq_ok_iff.mpr ⟨by decide, rfl⟩, by decide⟩

end HeaderRelay.Merkle
