import HeaderRelay.Merkle
import Mathlib.Algebra.Ring.Nat
import Mathlib.Data.Nat.Log
import Mathlib.Tactic.Common

/-!
# The tree over a block

A tree is its levels, from the leaves up to a single node.  Two neighbours of a
level, its couple, are hashed into one node of the next; the last node of an odd
level is coupled with itself.  Root and branches are both read off the levels, so
that a branch leads from its leaf to the root through the couples of the tree.

A tree of some depth has room for a power of two of leaves.  The positions past the
last leaf are not empty: where a level is odd, the coupling of its last node with
itself puts a copy of everything below that node behind it.  `original` tells which
leaf is at a position, and a branch leads to the root from every position that its
leaf is at.
-/

namespace HeaderRelay.Merkle

variable {level leaves : List Hash} {node : Hash} {count position place height : Nat}

/-! ## Couples -/

/-- The node above a couple. -/
def parent (couple : Hash × Hash) : Hash :=
  couple.1.pair couple.2

/-- The couple below a place of the next level. -/
def couple? (level : List Hash) (place : Nat) : Option (Hash × Hash) :=
  level[2 * place]?.map fun left => (left, level[2 * place + 1]?.getD left)

theorem getElem?_parents (level : List Hash) (place : Nat) :
    (parents level)[place]? = (couple? level place).map parent := by
  fun_induction parents level generalizing place with
  | case1 left right rest ih =>
      cases place with
      | zero => rfl
      | succ place => exact ih place
  | case2 last =>
      cases place with
      | zero => rfl
      | succ place => rfl
  | case3 => rfl

/-- A node and its sibling in the order of their couple: the bit of the position
says on which side the node is. -/
def ordered (position : Nat) (node sibling : Hash) : Hash × Hash :=
  if position % 2 = 1 then (sibling, node) else (node, sibling)

@[simp] theorem ordered_self : ordered position node node = (node, node) := by
  simp [ordered]

theorem climb_cons (node sibling : Hash) (rest : List Hash) (position : Nat) :
    climb node (sibling :: rest) position =
      climb (parent (ordered position node sibling)) rest (position / 2) := by
  unfold ordered
  split
  next right => simp only [climb, right, if_true, parent]
  next left => simp only [climb, left, if_false, parent]

/-- The node on the left of a couple has the one after it for a sibling, or itself. -/
theorem couple?_of_even (inside : place < level.length) (even : place % 2 = 0) :
    couple? level (place / 2) = some (level[place], sibling level place inside) := by
  have twice : 2 * (place / 2) = place := by omega
  have onLeft : place % 2 ≠ 1 := by omega
  simp only [couple?, twice, List.getElem?_eq_getElem inside, Option.map_some, sibling, onLeft,
    if_false]
  split
  next followed => rw [List.getElem?_eq_getElem followed, Option.getD_some]
  next alone => rw [List.getElem?_eq_none (Nat.not_lt.mp alone), Option.getD_none]

/-- The node on the right of a couple has the one before it for a sibling. -/
theorem couple?_of_odd (inside : place < level.length) (odd : place % 2 = 1) :
    couple? level (place / 2) = some (sibling level place inside, level[place]) := by
  have before : 2 * (place / 2) = place - 1 := by omega
  have left : level[place - 1]? = some level[place - 1] := List.getElem?_eq_getElem (by omega)
  have right : level[place - 1 + 1]? = some level[place] := by
    rw [Nat.sub_add_cancel (by omega), List.getElem?_eq_getElem inside]
  simp only [couple?, before, left, right, Option.map_some, Option.getD_some, sibling, odd,
    if_true]

theorem sibling_of_last (inside : place < level.length) (last : place + 1 = level.length)
    (even : place % 2 = 0) : sibling level place inside = level[place] := by
  have onLeft : place % 2 ≠ 1 := by omega
  have noNext : ¬place + 1 < level.length := by omega
  simp only [sibling, onLeft, noNext, if_false, dif_neg, not_false_eq_true]

/-- Whether a node may be taken to be on the side of a position: because it is on
that side, or because it is coupled with itself and so on either side. -/
def Sides (count place position : Nat) : Prop :=
  place % 2 = position % 2 ∨ place % 2 = 0 ∧ place + 1 = count

theorem couple?_eq_ordered (inside : place < level.length)
    (sides : Sides level.length place position) :
    couple? level (place / 2) =
      some (ordered position level[place] (sibling level place inside)) := by
  rcases sides with same | ⟨even, last⟩
  · rcases Nat.mod_two_eq_zero_or_one place with even | odd
    · have onLeft : position % 2 ≠ 1 := by omega
      simp only [couple?_of_even inside even, ordered, onLeft, if_false]
    · have onRight : position % 2 = 1 := by omega
      simp only [couple?_of_odd inside odd, ordered, onRight, if_true]
  · rw [couple?_of_even inside even, sibling_of_last inside last even, ordered_self]

theorem getElem_parents (inside : place < level.length)
    (sides : Sides level.length place position)
    (above : place / 2 < (parents level).length) :
    (parents level)[place / 2] =
      parent (ordered position level[place] (sibling level place inside)) := by
  have found := getElem?_parents level (place / 2)
  rw [couple?_eq_ordered inside sides, List.getElem?_eq_getElem above] at found
  exact Option.some.inj found

theorem half_lt_length_parents (inside : place < level.length) :
    place / 2 < (parents level).length := by
  rw [length_parents]
  omega

/-! ## Levels -/

/-- A level of the tree, by its height above the leaves. -/
def nodes (leaves : List Hash) : (height : Nat) → List Hash
  | 0 => leaves
  | height + 1 => parents (nodes leaves height)

theorem nodes_parents (leaves : List Hash) (height : Nat) :
    nodes (parents leaves) height = nodes leaves (height + 1) := by
  induction height with
  | zero => rfl
  | succ height ih => exact congrArg parents ih

/-- How many levels there are above the leaves. -/
def depth (leaves : List Hash) : Nat :=
  Nat.clog 2 leaves.length

theorem length_le_two_pow_depth (leaves : List Hash) : leaves.length ≤ 2 ^ depth leaves :=
  Nat.le_pow_clog Nat.one_lt_two _

@[simp] theorem depth_singleton (node : Hash) : depth [node] = 0 :=
  Nat.clog_one_right 2

theorem depth_of_many (many : 1 < level.length) : depth level = depth (parents level) + 1 := by
  rw [depth, Nat.clog_of_two_le Nat.one_lt_two many, depth, length_parents]
  rfl

/-- What holds without nodes, of a single node, and of a level with more nodes if it
holds of the level above, holds of every level. -/
theorem induction_on_levels {Holds : List Hash → Prop} (empty : Holds [])
    (top : ∀ node, Holds [node])
    (below : ∀ level, 1 < level.length → Holds (parents level) → Holds level)
    (level : List Hash) : Holds level := by
  induction count : level.length using Nat.strongRecOn generalizing level with
  | ind count ih =>
      rcases level with _ | ⟨first, _ | ⟨second, rest⟩⟩
      · exact empty
      · exact top first
      · have many : 1 < (first :: second :: rest).length := by simp
        apply below _ many
        apply ih (parents (first :: second :: rest)).length
        · rw [length_parents]
          omega
        · rfl

theorem root?_of_many (many : 1 < level.length) : root? level = root? (parents level) := by
  rcases level with _ | ⟨first, _ | ⟨second, rest⟩⟩
  · cases many
  · exact absurd many (Nat.lt_irrefl 1)
  · rw [root?]

@[simp] theorem siblings_singleton (inside : position < [node].length) :
    siblings [node] position inside = [] := by
  rw [siblings, dif_pos List.length_singleton]

theorem siblings_of_many (many : 1 < level.length) (inside : position < level.length)
    (above : position / 2 < (parents level).length) :
    siblings level position inside =
      sibling level position inside :: siblings (parents level) (position / 2) above := by
  rw [siblings, dif_neg (by omega)]

theorem length_siblings (inside : position < level.length) :
    (siblings level position inside).length = depth level := by
  induction level using induction_on_levels generalizing position with
  | empty => cases inside
  | top node => simp
  | below level many ih =>
      rw [siblings_of_many many inside (half_lt_length_parents inside), List.length_cons, ih,
        depth_of_many many]

/-! ## Positions -/

/-- The number of the leaf that a position of the tree shows, over some number of
leaves. Up to the last leaf it is the position itself; from there on it is that of a
leaf that was copied, because a node above it is coupled with itself. -/
def original (count position : Nat) : Nat :=
  if count ≤ 1 then 0
  else
    let above := original ((count + 1) / 2) (position / 2)
    if 2 * above + position % 2 < count then 2 * above + position % 2 else 2 * above
termination_by count

@[simp] theorem original_one (position : Nat) : original 1 position = 0 := by
  rw [original, if_pos (Nat.le_refl 1)]

theorem original_of_many (many : 1 < count) (position : Nat) :
    original count position =
      if 2 * original ((count + 1) / 2) (position / 2) + position % 2 < count then
        2 * original ((count + 1) / 2) (position / 2) + position % 2
      else 2 * original ((count + 1) / 2) (position / 2) := by
  rw [original, if_neg (by omega)]

theorem original_lt (positive : 0 < count) (position : Nat) : original count position < count := by
  fun_induction original count position with
  | case1 => exact positive
  | case2 => assumption
  | case3 count position many above copied ih =>
      have := ih (by omega)
      omega

/-- A position that a leaf has shows that leaf. -/
theorem original_of_lt (inside : position < count) : original count position = position := by
  fun_induction original count position with
  | case1 => omega
  | case2 count position many above own ih =>
      have := ih (by omega)
      omega
  | case3 count position many above copied ih =>
      have := ih (by omega)
      omega

/-- Half of a position shows half of what the position shows, which is on the side of
the position unless it is coupled with itself. -/
theorem original_step (many : 1 < count) (shown : original count position = place) :
    original ((count + 1) / 2) (position / 2) = place / 2 ∧ Sides count place position := by
  have nonempty : 0 < (count + 1) / 2 := by omega
  have above := original_lt nonempty (position / 2)
  rw [original_of_many many] at shown
  unfold Sides
  split at shown
  next own => omega
  next copied => omega

/-! ## Climbing -/

/-- The branch of a leaf leads to the root from every position that shows the leaf. -/
theorem root?_eq_climb (inside : place < level.length)
    (shown : original level.length position = place) :
    root? level = some (climb level[place] (siblings level place inside) position) := by
  induction level using induction_on_levels generalizing place position with
  | empty => cases inside
  | top node =>
      obtain rfl := shown
      simp [root?]
  | below level many ih =>
      obtain ⟨half, sides⟩ := original_step many shown
      have above := half_lt_length_parents inside
      rw [← length_parents] at half
      rw [root?_of_many many, ih above half, siblings_of_many many inside above, climb_cons,
        getElem_parents inside sides above]

end HeaderRelay.Merkle
