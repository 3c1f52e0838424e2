import HeaderRelay.Proofs.Verification
import HeaderRelay.Proofs.WindowRelay.Refinement

/-!
# Proofs held against a window relay

A window finds out where the headers of a proof belong by the first hash that it
knows: the parent of the first header, or one of the headers themselves.  The
recorded height and the position of that hash give the height of the first
header.  Since no height above the tip is recorded, only two cases pass: the first
header is a recorded block, or it comes directly on top of the tip.
-/

namespace HeaderRelay.WindowRelay

variable {relay : WindowRelay} {first header : Header} {rest : List Header}
  {start oldest tip height : Height} {past : List Call} {capacity : Nat}

theorem checkRecorded_eq_ok_iff :
    relay.checkRecorded height header = .ok () ↔ relay.isRecorded height header.hash = true := by
  unfold checkRecorded
  rw [isRecorded_iff]
  split
  next none => simp [none]
  next recorded found =>
    simp only [found, Option.some.injEq]
    split
    next same => simp [same]
    next different => simp [Ne.symm different]

/-- The height of a first header, told by a hash at some position behind its parent. -/
def placeBy? (relay : WindowRelay) (position : Nat) (hash : Hash) : Option Height := do
  let height ← relay.ring.heightOf? hash
  let above ← height.up? 1
  above.down? position

theorem exists_owner_of_placeBy? (placed : relay.ring.IsPlaced) {position : Nat} {hash : Hash}
    (found : relay.placeBy? position hash = some start) :
    ∃ owner, relay.ring.recorded? owner = some hash ∧
      start.toNat + position = owner.toNat + 1 ∧ owner.toNat + 1 < 2 ^ 32 := by
  obtain ⟨owner, known, told⟩ := Option.bind_eq_some_iff.mp found
  obtain ⟨above, next, below⟩ := Option.bind_eq_some_iff.mp told
  have nextIs := Height.up?_eq_some_iff.mp next
  have belowIs := Height.down?_eq_some_iff.mp below
  have inRange := above.toNat_lt
  exact ⟨owner, placed.recorded?_of_heightOf? known, by omega, by omega⟩

theorem exists_placeBy? (found : relay.place? first rest = some start) :
    ∃ position hash, (first.previous :: (first :: rest).map Header.hash)[position]? = some hash ∧
      relay.placeBy? position hash = some start := by
  obtain ⟨⟨hash, position⟩, member, told⟩ := List.exists_of_findSome?_eq_some found
  exact ⟨position, hash, List.mk_mem_zipIdx_iff_getElem?.mp member, told⟩

/-- The first of some headers is placed by a recorded hash: position zero is that of
its parent. -/
theorem place?_eq_some (placed : relay.ring.IsPlaced)
    (found : relay.place? first rest = some start) :
    ∃ position hash owner,
      (first.previous :: (first :: rest).map Header.hash)[position]? = some hash ∧
        relay.isRecorded owner hash = true ∧ start.toNat + position = owner.toNat + 1 := by
  obtain ⟨position, hash, listed, told⟩ := exists_placeBy? found
  obtain ⟨owner, recorded, aligned, _⟩ := exists_owner_of_placeBy? placed told
  exact ⟨position, hash, owner, listed, isRecorded_iff.mpr recorded, aligned⟩

/-- A hash of the parent that tells the height comes before all others. -/
theorem place?_of_parent (parent : relay.placeBy? 0 first.previous = some start) :
    relay.place? first rest = some start := by
  unfold placeBy? at parent
  simp only [place?, List.zipIdx_cons, List.findSome?_cons, parent]

theorem place?_of_first (unknown : relay.placeBy? 0 first.previous = none)
    (own : relay.placeBy? 1 first.hash = some start) :
    relay.place? first rest = some start := by
  unfold placeBy? at unknown own
  simp only [place?, List.map_cons, List.zipIdx_cons, List.findSome?_cons, unknown, own]

theorem checkAnchored_eq_ok_iff :
    relay.checkAnchored (first :: rest) = .ok () ↔
      ∃ chain start, relay.chain = some chain ∧ relay.place? first rest = some start ∧
        ∀ offset header, (first :: rest)[offset]? = some header →
          start.toNat + offset ≤ chain.tip.toNat →
            relay.isRecorded (UInt32.ofNat (start.toNat + offset)) header.hash = true := by
  unfold checkAnchored
  simp only [Checks.bind_eq_ok_iff, tracked_eq_ok_iff]
  apply exists_congr
  intro chain
  cases found : relay.place? first rest with
  | none => simp
  | some start =>
      simp only [Checks.forM_eq_ok_iff, Option.some.injEq, exists_and_left, exists_eq_left',
        Prod.forall, List.mk_mem_zipIdx_iff_le_and_getElem?_sub, checkRecorded_eq_ok_iff,
        List.getElem?_take]
      apply and_congr_right
      intro _
      constructor
      · intro passed offset header listed below
        apply passed header (start.toNat + offset)
        rw [if_pos (by omega), Nat.add_sub_cancel_left]
        exact ⟨Nat.le_add_right _ _, listed⟩
      · intro passed header number inside
        obtain ⟨above, listed⟩ := inside
        split at listed
        next below =>
          have recorded := passed _ header listed (by omega)
          rwa [Nat.add_sub_cancel' above] at recorded
        next => cases listed

end HeaderRelay.WindowRelay
