import HeaderRelay.Hash
import HeaderRelay.Height

/-!
# Ring of blocks

A fixed number of slots for block hashes.  A height has one slot, its remainder
by the number of slots, and a slot remembers for which height it was filled, so
that a later block in the same slot hides the earlier one.
-/

namespace HeaderRelay

structure Ring where
  slots : Array (Option (Height × Hash))
  hasSlots : 0 < slots.size

namespace Ring

/-- A ring without blocks. -/
def empty (capacity : Nat) (positive : 0 < capacity) : Ring where
  slots := Array.replicate capacity none
  hasSlots := by simpa using positive

/-- The number of slots. -/
def capacity (ring : Ring) : Nat :=
  ring.slots.size

/-- The slot of a height. -/
def slot (ring : Ring) (height : Height) : Nat :=
  height.toNat % ring.slots.size

theorem slot_lt (ring : Ring) (height : Height) : ring.slot height < ring.slots.size :=
  Nat.mod_lt _ ring.hasSlots

/-- The hash recorded for a height, if its slot still belongs to it. -/
def recorded? (ring : Ring) (height : Height) : Option Hash :=
  match ring.slots[ring.slot height]? with
  | some (some (owner, hash)) => if owner = height then some hash else none
  | _ => none

/-- The height for which a hash is recorded: that of the first such slot. -/
def heightOf? (ring : Ring) (hash : Hash) : Option Height :=
  ring.slots.findSome? fun entry =>
    match entry with
    | some (owner, recorded) => if recorded = hash then some owner else none
    | none => none

/-- The ring after a block was recorded. -/
def record (ring : Ring) (height : Height) (hash : Hash) : Ring where
  slots := ring.slots.set (ring.slot height) (some (height, hash)) (ring.slot_lt height)
  hasSlots := by simpa using ring.hasSlots

/-- The ring after blocks at successive heights were recorded. -/
def recordAll (ring : Ring) (height : Height) : List Hash → Ring
  | [] => ring
  | hash :: rest => (ring.record height hash).recordAll (height + 1) rest

@[simp] theorem capacity_empty (capacity : Nat) (positive : 0 < capacity) :
    (empty capacity positive).capacity = capacity := by
  simp [empty, Ring.capacity]

@[simp] theorem capacity_record (ring : Ring) (height : Height) (hash : Hash) :
    (ring.record height hash).capacity = ring.capacity := by
  simp [record, capacity]

@[simp] theorem recorded?_empty (capacity : Nat) (positive : 0 < capacity)
    (height : Height) : (empty capacity positive).recorded? height = none := by
  simp only [recorded?, empty, Array.getElem?_replicate]
  split
  · rename_i found
    split at found <;> simp at found
  · rfl

@[simp] theorem recorded?_record_self (ring : Ring) (height : Height) (hash : Hash) :
    (ring.record height hash).recorded? height = some hash := by
  simp [record, recorded?, slot, Nat.mod_lt _ ring.hasSlots]

end Ring

end HeaderRelay
