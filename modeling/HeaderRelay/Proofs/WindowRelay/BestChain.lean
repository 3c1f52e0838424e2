import HeaderRelay.Proofs.WindowRelay.Operations
import HeaderRelay.Proofs.WindowRelay.Ring

/-!
# The chain behind a window

A window forgets: a block drops out of it when it is too far below the tip, or
when a reorganization replaces it.  The best chain forgets nothing below the tip.
It begins with the tip of the genesis, and every batch that is taken in replaces
what was above its ancestor.

The window of a relay shows exactly the upper end of this chain, as much of it as
there are slots.  No batch leaves anything behind that is not on the chain: it
leads above the tip, so it overwrites whatever stood above its ancestor, and it
takes the slots of the blocks that drop out at the lower end.
-/

namespace HeaderRelay

/-- All blocks from genesis to the tip. -/
structure BestChain where
  genesisHeight : Height
  /-- The blocks, the lowest first. -/
  blocks : List Header
  deriving DecidableEq

namespace BestChain

variable {best : BestChain} {ancestor : Height} {added : List Header} {number : Nat}

/-- The first height above the chain. -/
def above (best : BestChain) : Nat :=
  best.genesisHeight.toNat + best.blocks.length

/-- The block at a height. -/
def at? (best : BestChain) (number : Nat) : Option Header :=
  if best.genesisHeight.toNat ≤ number then
    best.blocks[number - best.genesisHeight.toNat]?
  else none

theorem at?_of_le (best : BestChain) (started : best.genesisHeight.toNat ≤ number) :
    best.at? number = best.blocks[number - best.genesisHeight.toNat]? :=
  if_pos started

theorem at?_of_lt (best : BestChain) (before : number < best.genesisHeight.toNat) :
    best.at? number = none :=
  if_neg (Nat.not_le.mpr before)

/-- The oldest height among the last ones, as many as the capacity of a window. -/
def oldest (best : BestChain) (capacity : Nat) : Nat :=
  max best.genesisHeight.toNat (best.above - capacity)

/-- Whether a height is among the last ones. -/
def Covers (best : BestChain) (capacity number : Nat) : Prop :=
  best.oldest capacity ≤ number ∧ number < best.above

/-- Everything above the ancestor is dropped for the added headers. -/
def reorganize (best : BestChain) (ancestor : Height) (added : List Header) : BestChain :=
  { best with
    blocks :=
      best.blocks.take (ancestor.toNat + 1 - best.genesisHeight.toNat) ++ added }

/-- The chain after a call that succeeded. -/
def after : Option BestChain → WindowRelay.Call → Option BestChain
  | best, .genesis _ _ tip height =>
      match Header.decode tip with
      | .ok header => some ⟨height, [header]⟩
      | .error _ => best
  | some best, .addHeaders ancestor headers =>
      match Header.decodeChain headers with
      | .ok headers => some (best.reorganize ancestor headers.tail)
      | .error _ => some best
  | best, _ => best

/-- The chain that calls lead to, all of which succeeded. -/
def ofCalls (calls : List WindowRelay.Call) : Option BestChain :=
  calls.foldl after none

@[simp] theorem ofCalls_concat (past : List WindowRelay.Call) (call : WindowRelay.Call) :
    ofCalls (past ++ [call]) = after (ofCalls past) call := by
  simp [ofCalls]

theorem after_of_isQuery {call : WindowRelay.Call} (asked : call.isQuery = true)
    (best : Option BestChain) : after best call = best := by
  cases call with
  | genesis | addHeaders => cases asked
  | validate | verifyProof | checkAnchored | isRecorded | areRecorded | height | epochStart
  | range | epochDifficulties | capacity => cases best <;> rfl

/-! ## Reorganizations -/

@[simp] theorem genesisHeight_reorganize :
    (best.reorganize ancestor added).genesisHeight = best.genesisHeight := rfl

theorem blocks_reorganize :
    (best.reorganize ancestor added).blocks =
      best.blocks.take (ancestor.toNat + 1 - best.genesisHeight.toNat) ++ added := rfl

theorem above_reorganize (started : best.genesisHeight.toNat ≤ ancestor.toNat)
    (known : ancestor.toNat < best.above) :
    (best.reorganize ancestor added).above = ancestor.toNat + 1 + added.length := by
  simp only [above] at known ⊢
  rw [genesisHeight_reorganize, blocks_reorganize, List.length_append, List.length_take]
  omega

theorem at?_reorganize_of_le (known : ancestor.toNat < best.above)
    (kept : number ≤ ancestor.toNat) :
    (best.reorganize ancestor added).at? number = best.at? number := by
  simp only [above] at known
  rcases Nat.lt_or_ge number best.genesisHeight.toNat with before | started
  · rw [at?_of_lt best before, at?_of_lt (best.reorganize ancestor added) before]
  · rw [at?_of_le best started, at?_of_le (best.reorganize ancestor added) started,
      blocks_reorganize, genesisHeight_reorganize,
      List.getElem?_append_left (by rw [List.length_take]; omega),
      List.getElem?_take_of_lt (by omega)]

theorem at?_reorganize_of_gt (started : best.genesisHeight.toNat ≤ ancestor.toNat)
    (known : ancestor.toNat < best.above) (replaced : ancestor.toNat < number) :
    (best.reorganize ancestor added).at? number = added[number - (ancestor.toNat + 1)]? := by
  simp only [above] at known
  rw [at?_of_le _ (by rw [genesisHeight_reorganize]; omega), blocks_reorganize,
    genesisHeight_reorganize, List.getElem?_append_right (by rw [List.length_take]; omega),
    List.length_take]
  congr 1
  omega

theorem linked_reorganize (linked : Header.Linked best.blocks)
    (started : best.genesisHeight.toNat ≤ ancestor.toNat) {block first : Header}
    (found : best.at? ancestor.toNat = some block) (same : block.hash = first.hash)
    (joined : Header.Linked (first :: added)) :
    Header.Linked (best.reorganize ancestor added).blocks := by
  obtain ⟨onTop, chained⟩ := Header.linked_cons.mp joined
  apply (linked.take _).append chained
  intro last isLast upper isFirst
  have lastIs : last = block := by
    rw [at?_of_le best started] at found
    rw [Nat.sub_add_comm started, List.take_add_one, found] at isLast
    simpa using isLast.symm
  rw [onTop upper isFirst, lastIs, same]

/-- Neighbours on a chain are linked. -/
theorem previous_of_linked (linked : Header.Linked best.blocks) {lower upper : Header}
    (below : best.at? number = some lower) (onTop : best.at? (number + 1) = some upper) :
    upper.previous = lower.hash := by
  rcases Nat.lt_or_ge number best.genesisHeight.toNat with before | started
  · rw [at?_of_lt best before] at below
    cases below
  · rw [at?_of_le best started] at below
    rw [at?_of_le best (by omega), Nat.sub_add_comm started] at onTop
    obtain ⟨_, rfl⟩ := List.getElem?_eq_some_iff.mp below
    obtain ⟨inside, rfl⟩ := List.getElem?_eq_some_iff.mp onTop
    exact linked.getElem _ inside

end BestChain

/-! ## What a ring shows -/

namespace Ring

variable {ring : Ring} {best : BestChain} {ancestor height : Height} {added : List Header}
  {hash : Hash}

/-- Whether the blocks of a ring are the last ones of a chain. -/
structure Shows (ring : Ring) (best : BestChain) : Prop where
  inside : ∀ height : Height, best.Covers ring.capacity height.toNat →
    ring.recorded? height = (best.at? height.toNat).map Header.hash
  outside : ∀ height : Height, ¬best.Covers ring.capacity height.toNat →
    ring.recorded? height = none

theorem Shows.recorded?_eq_some_iff (shown : ring.Shows best) :
    ring.recorded? height = some hash ↔
      best.Covers ring.capacity height.toNat ∧
        ∃ block, best.at? height.toNat = some block ∧ block.hash = hash := by
  by_cases covered : best.Covers ring.capacity height.toNat
  · rw [shown.inside height covered, Option.map_eq_some_iff]
    simp [covered]
  · rw [shown.outside height covered]
    simp [covered]

/-- The first block of a chain, in a ring without any. -/
theorem shows_record (unrecorded : ∀ other, ring.recorded? other = none) (header : Header) :
    (ring.record height header.hash).Shows ⟨height, [header]⟩ := by
  have roomy : 0 < ring.capacity := ring.hasSlots
  constructor
  · intro other covered
    obtain rfl : other = height := by
      rw [← UInt32.toNat_inj]
      simp only [BestChain.Covers, BestChain.oldest, BestChain.above, List.length_singleton]
        at covered
      omega
    rw [recorded?_record_self, BestChain.at?_of_le _ (Nat.le_refl _)]
    simp
  · intro other uncovered
    refine recorded?_record_eq_none ?_ (unrecorded other)
    rintro rfl
    simp only [BestChain.Covers, BestChain.oldest, BestChain.above, List.length_singleton,
      capacity_record] at uncovered
    omega

/-- A batch that leads above the tip turns the last blocks of a chain into those of
the chain after the reorganization. -/
theorem Shows.recordAll (shown : ring.Shows best)
    (covered : best.Covers ring.capacity ancestor.toNat) (short : added.length < ring.capacity)
    (fits : ancestor.toNat + added.length < 2 ^ 32)
    (higher : best.above ≤ ancestor.toNat + added.length) :
    (ring.recordAll (ancestor + 1) (added.map Header.hash)).Shows
      (best.reorganize ancestor added) := by
  obtain ⟨fromOldest, known⟩ := covered
  have started : best.genesisHeight.toNat ≤ ancestor.toNat :=
    (Nat.le_max_left _ _).trans fromOldest
  have first : (ancestor + 1).toNat = ancestor.toNat + 1 := by
    have := Height.toNat_succ ancestor
    omega
  have covers_iff (number : Nat) :
      (best.reorganize ancestor added).Covers ring.capacity number ↔
        best.genesisHeight.toNat ≤ number ∧
          ancestor.toNat + 1 + added.length ≤ number + ring.capacity ∧
          number < ancestor.toNat + 1 + added.length := by
    simp only [BestChain.Covers, BestChain.oldest, BestChain.above_reorganize started known,
      BestChain.genesisHeight_reorganize]
    omega
  have inBatch_iff (number : Nat) :
      InBatch (ancestor + 1) (added.map Header.hash) number ↔
        ancestor.toNat + 1 ≤ number ∧ number < ancestor.toNat + 1 + added.length := by
    simp only [InBatch, List.length_map, first]
  have fitsBatch : (ancestor + 1).toNat + (added.map Header.hash).length ≤ 2 ^ 32 := by
    rw [List.length_map]
    omega
  constructor
  · intro height covered
    rw [capacity_recordAll, covers_iff] at covered
    rcases Nat.lt_or_ge ancestor.toNat height.toNat with new | old
    · rw [recorded?_recordAll_of_inBatch fitsBatch (by rw [List.length_map]; omega)
        ((inBatch_iff _).mpr (by omega)), BestChain.at?_reorganize_of_gt started known new,
        List.getElem?_map, first]
    · rw [recorded?_recordAll_of_apart fitsBatch, BestChain.at?_reorganize_of_le known old]
      · refine shown.inside height ⟨?_, by omega⟩
        simp only [BestChain.oldest]
        omega
      · intro number inside
        rw [inBatch_iff] at inside
        exact mod_ne_mod_of_lt_add (by omega) (by omega)
  · intro height uncovered
    rw [capacity_recordAll, covers_iff] at uncovered
    have outside : ¬InBatch (ancestor + 1) (added.map Header.hash) height.toNat := by
      rw [inBatch_iff]
      omega
    by_cases before : best.Covers ring.capacity height.toNat
    · -- The block one round above is in the batch, because the batch leads above the tip.
      have hides : InBatch (ancestor + 1) (added.map Header.hash)
          (height.toNat + ring.capacity) := by
        rw [inBatch_iff]
        simp only [BestChain.Covers, BestChain.oldest] at before
        omega
      exact recorded?_recordAll_of_hidden fitsBatch outside hides (Nat.add_mod_right _ _).symm
    · exact recorded?_recordAll_eq_none fitsBatch outside (shown.outside height before)

end Ring

end HeaderRelay
