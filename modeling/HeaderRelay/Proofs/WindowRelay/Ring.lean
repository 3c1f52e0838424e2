import HeaderRelay.Proofs.Height
import HeaderRelay.WindowRelay.Ring

/-!
# The laws of the ring

Two heights may have the same slot, and then at most one of them is recorded.
Heights less than a round apart never have.  So a batch of successive heights
that is not longer than the ring is recorded whole, hides what had one of its
slots and leaves everything else as it was.
-/

namespace HeaderRelay.Ring

variable {ring : Ring} {height other owner : Height} {hash : Hash} {hashes : List Hash}

/-- Numbers less than a round apart are different places on a circle. -/
theorem mod_ne_mod_of_lt_add {lower upper round : Nat} (below : lower < upper)
    (near : upper < lower + round) : lower % round ≠ upper % round := by
  intro same
  have multiple : round ∣ upper - lower :=
    Nat.dvd_of_mod_eq_zero (Nat.sub_mod_eq_zero_of_mod_eq same.symm)
  have := Nat.le_of_dvd (by omega) multiple
  omega

/-! ## One block -/

@[simp] theorem slot_record : (ring.record height hash).slot other = ring.slot other := by
  simp [slot, record]

theorem recorded?_record_of_slot_ne (apart : ring.slot other ≠ ring.slot height) :
    (ring.record height hash).recorded? other = ring.recorded? other := by
  unfold recorded?
  rw [slot_record]
  simp only [record]
  rw [Array.getElem?_set_ne _ apart.symm]

theorem recorded?_record_of_slot_eq (different : other ≠ height)
    (same : ring.slot other = ring.slot height) :
    (ring.record height hash).recorded? other = none := by
  unfold recorded?
  rw [slot_record, same]
  simp [record, ring.slot_lt, different.symm]

/-- Recording a block records no other height. -/
theorem recorded?_record_eq_none (different : other ≠ height)
    (unrecorded : ring.recorded? other = none) :
    (ring.record height hash).recorded? other = none := by
  by_cases same : ring.slot other = ring.slot height
  · exact recorded?_record_of_slot_eq different same
  · rw [recorded?_record_of_slot_ne same, unrecorded]

/-! ## A batch -/

/-- Whether a height lies among those of a batch. -/
def InBatch (height : Height) (hashes : List Hash) (number : Nat) : Prop :=
  height.toNat ≤ number ∧ number < height.toNat + hashes.length

@[simp] theorem capacity_recordAll :
    (ring.recordAll height hashes).capacity = ring.capacity := by
  induction hashes generalizing ring height with
  | nil => rfl
  | cons hash rest ih => rw [recordAll, ih, capacity_record]

/-- A height that shares no slot with a batch is left as it was. -/
theorem recorded?_recordAll_of_apart (fits : height.toNat + hashes.length ≤ 2 ^ 32)
    (apart : ∀ number, InBatch height hashes number →
      other.toNat % ring.capacity ≠ number % ring.capacity) :
    (ring.recordAll height hashes).recorded? other = ring.recorded? other := by
  induction hashes generalizing ring height with
  | nil => rfl
  | cons hash rest ih =>
      have next := Height.toNat_succ height
      simp only [InBatch, List.length_cons] at fits apart ih
      rw [recordAll, ih (by omega)]
      · exact recorded?_record_of_slot_ne (apart height.toNat (by omega))
      · intro number inRest
        rw [capacity_record]
        exact apart number (by omega)

/-- A batch records no height but its own. -/
theorem recorded?_recordAll_eq_none (fits : height.toNat + hashes.length ≤ 2 ^ 32)
    (outside : ¬InBatch height hashes other.toNat) (unrecorded : ring.recorded? other = none) :
    (ring.recordAll height hashes).recorded? other = none := by
  induction hashes generalizing ring height with
  | nil => exact unrecorded
  | cons hash rest ih =>
      have next := Height.toNat_succ height
      simp only [InBatch, List.length_cons] at fits outside ih
      refine ih (by omega) (by omega) (recorded?_record_eq_none ?_ unrecorded)
      rintro rfl
      omega

/-- A height that shares its slot with one of a batch is no longer recorded. -/
theorem recorded?_recordAll_of_hidden (fits : height.toNat + hashes.length ≤ 2 ^ 32)
    (outside : ¬InBatch height hashes other.toNat) {number : Nat}
    (inside : InBatch height hashes number)
    (same : other.toNat % ring.capacity = number % ring.capacity) :
    (ring.recordAll height hashes).recorded? other = none := by
  induction hashes generalizing ring height with
  | nil => simp only [InBatch, List.length_nil] at inside; omega
  | cons hash rest ih =>
      have next := Height.toNat_succ height
      simp only [InBatch, List.length_cons] at fits outside inside ih
      by_cases first : number = height.toNat
      · subst first
        rw [recordAll]
        refine recorded?_recordAll_eq_none (by omega) (by simp only [InBatch]; omega) ?_
        refine recorded?_record_of_slot_eq ?_ same
        rintro rfl
        omega
      · exact ih (by omega) (by omega) (by omega) (by rwa [capacity_record])

/-- A batch that is not longer than the ring is recorded whole. -/
theorem recorded?_recordAll_of_inBatch (fits : height.toNat + hashes.length ≤ 2 ^ 32)
    (short : hashes.length ≤ ring.capacity) (inside : InBatch height hashes other.toNat) :
    (ring.recordAll height hashes).recorded? other = hashes[other.toNat - height.toNat]? := by
  induction hashes generalizing ring height with
  | nil => simp only [InBatch, List.length_nil] at inside; omega
  | cons hash rest ih =>
      have next := Height.toNat_succ height
      simp only [InBatch, List.length_cons] at fits short inside ih
      rw [recordAll]
      by_cases first : other.toNat = height.toNat
      · obtain rfl := UInt32.toNat_inj.mp first
        rw [recorded?_recordAll_of_apart (by omega), recorded?_record_self]
        · simp
        · intro number inRest
          simp only [InBatch] at inRest
          rw [capacity_record]
          exact mod_ne_mod_of_lt_add (by omega) (by omega)
      · rw [ih (by omega) (by rw [capacity_record]; omega) (by omega)]
        have offset : other.toNat - height.toNat = other.toNat - (height + 1).toNat + 1 := by
          omega
        rw [offset, List.getElem?_cons_succ]

/-- A batch leaves the slots that none of its heights has as they are. -/
theorem slots_recordAll_of_apart (fits : height.toNat + hashes.length ≤ 2 ^ 32) {position : Nat}
    (apart : ∀ number, InBatch height hashes number → position ≠ number % ring.capacity) :
    (ring.recordAll height hashes).slots[position]? = ring.slots[position]? := by
  induction hashes generalizing ring height with
  | nil => rfl
  | cons hash rest ih =>
      have next := Height.toNat_succ height
      simp only [InBatch, List.length_cons] at fits apart ih
      rw [recordAll, ih (by omega)]
      · exact Array.getElem?_set_ne (ring.slot_lt height) (apart height.toNat (by omega)).symm
      · intro number inRest
        rw [capacity_record]
        exact apart number (by omega)

/-- A batch that is not longer than the ring fills the slots of its heights. -/
theorem slots_recordAll_of_listed (fits : height.toNat + hashes.length ≤ 2 ^ 32)
    (short : hashes.length ≤ ring.capacity) {offset : Nat} (listed : hashes[offset]? = some hash)
    (place : owner.toNat = height.toNat + offset) :
    (ring.recordAll height hashes).slots[owner.toNat % ring.capacity]? =
      some (some (owner, hash)) := by
  induction hashes generalizing ring height offset with
  | nil => cases listed
  | cons first rest ih =>
      have next := Height.toNat_succ height
      rw [List.length_cons] at fits short
      rw [recordAll]
      cases offset with
      | zero =>
          obtain rfl := UInt32.toNat_inj.mp place
          cases listed
          rw [slots_recordAll_of_apart (by omega)]
          · exact Array.getElem?_set_self (ring.slot_lt owner)
          · intro number inRest
            simp only [InBatch] at inRest
            rw [capacity_record]
            exact mod_ne_mod_of_lt_add (by omega) (by omega)
      | succ offset =>
          obtain ⟨inside, _⟩ := List.getElem?_eq_some_iff.mp listed
          rw [List.length_cons] at inside
          rw [List.getElem?_cons_succ] at listed
          rw [← capacity_record ring height first] at short ⊢
          exact ih (by omega) (by omega) listed (by omega)

/-! ## Looking a hash up -/

/-- Whether every block stands in the slot of its height. -/
def IsPlaced (ring : Ring) : Prop :=
  ∀ position owner hash, ring.slots[position]? = some (some (owner, hash)) →
    ring.slot owner = position

theorem isPlaced_empty (capacity : Nat) (positive : 0 < capacity) :
    (empty capacity positive).IsPlaced := by
  intro position owner hash stored
  simp [empty, Array.getElem?_replicate] at stored

theorem IsPlaced.record (placed : ring.IsPlaced) : (ring.record height hash).IsPlaced := by
  intro position owner stored found
  rw [slot_record]
  simp only [Ring.record, Array.getElem?_set] at found
  split at found
  next same =>
    cases found
    exact same
  next => exact placed position owner stored found

theorem IsPlaced.recordAll (placed : ring.IsPlaced) :
    (ring.recordAll height hashes).IsPlaced := by
  induction hashes generalizing ring height with
  | nil => exact placed
  | cons hash rest ih => exact ih placed.record

/-- A hash that is found is recorded at the height that is told. -/
theorem IsPlaced.recorded?_of_heightOf? (placed : ring.IsPlaced)
    (found : ring.heightOf? hash = some owner) : ring.recorded? owner = some hash := by
  obtain ⟨entry, member, told⟩ := Array.exists_of_findSome?_eq_some found
  obtain ⟨position, stored⟩ := Array.mem_iff_getElem?.mp member
  split at told
  next holder recorded =>
    split at told
    next same =>
      cases told
      unfold recorded?
      rw [placed position owner recorded stored, stored]
      simp [same]
    next => cases told
  next => cases told

end HeaderRelay.Ring
