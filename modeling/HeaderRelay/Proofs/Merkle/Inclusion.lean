import HeaderRelay.Proofs.Merkle.Tree

/-!
# Built branches are accepted

The verification of a branch asks for two things: an index with no more bits than
the branch has hashes, and a climb that ends at the root.  A branch that was built
for a leaf does both, in trees of every size.
-/

namespace HeaderRelay.Merkle

variable {leaves : List Hash} {leaf root : Hash} {branch : List Hash} {index : UInt64}
variable {place : Nat}

theorem verify_eq_ok_iff :
    verify leaf root branch index = .ok () ↔
      index.toNat < 2 ^ branch.length ∧ climb leaf branch index.toNat = root := by
  have fits : index.toNat >>> branch.length = 0 ↔ index.toNat < 2 ^ branch.length := by
    rw [Nat.shiftRight_eq_div_pow, Nat.div_eq_zero_iff_lt (Nat.two_pow_pos _)]
  unfold verify
  split
  next misplaced =>
    obtain ⟨rfl, different⟩ := misplaced
    rw [climb_nil, List.length_nil, Nat.pow_zero, Nat.lt_one_iff]
    simp only [reduceCtorEq, false_iff, not_and]
    intro first
    rcases different with later | other
    · exact absurd (UInt64.toNat_inj.mp first) later
    · exact other
  next =>
    rw [← fits]
    split
    next overflows => simp [overflows]
    next bounded =>
      rw [not_not] at bounded
      split
      next other => simp [other]
      next same =>
        rw [not_not] at same
        simp [bounded, same]

theorem root?_eq_none_iff : root? leaves = none ↔ leaves = [] := by
  constructor
  · intro none
    by_contra nonempty
    have positive := List.length_pos_iff.mpr nonempty
    rw [root?_eq_climb (original_lt positive 0) rfl] at none
    cases none
  · rintro rfl
    rw [root?]

theorem branch?_eq_none_iff {position : Nat} :
    branch? leaves position = none ↔ leaves.length ≤ position := by
  unfold branch?
  split
  next inside => simp [inside]
  next outside => simpa using outside

theorem branch?_of_inside (inside : place < leaves.length) :
    branch? leaves place = some (siblings leaves place inside) :=
  dif_pos inside

/-- The branch of a leaf is accepted at every index that shows the leaf. -/
theorem verify_siblings (known : root? leaves = some root) (inside : place < leaves.length)
    (shown : original leaves.length index.toNat = place)
    (bounded : index.toNat < 2 ^ depth leaves) :
    verify leaves[place] root (siblings leaves place inside) index = .ok () := by
  apply verify_eq_ok_iff.mpr
  constructor
  · rwa [length_siblings]
  · have climbs := root?_eq_climb inside shown
    exact Option.some.inj (climbs.symm.trans known)

/-- Every list of leaves but the empty one has a root, each of its leaves and no other
has a branch, with as many hashes as the tree has levels above the leaves, and the
branch is accepted for the leaf under the root. -/
theorem built_branches_are_accepted (leaves : List Hash) :
    (root? leaves = none ↔ leaves = []) ∧
      (∀ position, branch? leaves position = none ↔ leaves.length ≤ position) ∧
      ∀ (index : UInt64) (inside : index.toNat < leaves.length),
        ∃ root branch, root? leaves = some root ∧ branch? leaves index.toNat = some branch ∧
          branch.length = Nat.clog 2 leaves.length ∧
          verify leaves[index.toNat] root branch index = .ok () := by
  refine ⟨root?_eq_none_iff, fun _ => branch?_eq_none_iff, ?_⟩
  intro index inside
  have shown := original_of_lt inside
  have known := root?_eq_climb inside shown
  refine ⟨_, _, known, branch?_of_inside inside, length_siblings inside, ?_⟩
  exact verify_siblings known inside shown
    (Nat.lt_of_lt_of_le inside (length_le_two_pow_depth leaves))

/-- Three transactions, so that the last of them is coupled with itself. -/
def testLeaves : List Hash :=
  [.zero, ⟨List.replicate 32 1, by simp⟩, ⟨List.replicate 32 2, by simp⟩]

theorem testLeaves_branch_is_accepted :
    (2 : UInt64).toNat < testLeaves.length ∧
      ∃ root branch, root? testLeaves = some root ∧ branch? testLeaves 2 = some branch ∧
        branch.length = Nat.clog 2 testLeaves.length ∧
        verify testLeaves[2] root branch 2 = .ok () := by
  have inside : (2 : UInt64).toNat < testLeaves.length := by decide
  exact ⟨inside, (built_branches_are_accepted testLeaves).2.2 2 inside⟩

end HeaderRelay.Merkle
