import HeaderRelay.Proofs.WindowRelay.BestChain

/-!
# A window relay shows its best chain

In every run the relay and the best chain of the calls that succeeded go
together: the tracked tip is that of the chain, and the ring holds its last
blocks and nothing else.
-/

namespace HeaderRelay.WindowRelay

variable {relay next : WindowRelay} {chain : TrackedChain} {best : BestChain}
  {past : List Call} {call : Call} {capacity : Nat}

@[simp] theorem tip_extendTo {tip : Height} {crossed : Option EpochStart} :
    (extendTo chain tip crossed).tip = tip := by
  cases crossed <;> rfl

@[simp] theorem genesisHeight_extendTo {tip : Height} {crossed : Option EpochStart} :
    (extendTo chain tip crossed).genesisHeight = chain.genesisHeight := by
  cases crossed <;> rfl

/-! ## The invariant -/

/-- Whether the two ends that are tracked are those of a linked chain. -/
structure Tracks (chain : TrackedChain) (best : BestChain) : Prop where
  genesisHeight : chain.genesisHeight = best.genesisHeight
  tip : chain.tip.toNat + 1 = best.above
  linked : Header.Linked best.blocks

/-- What ties a relay of a capacity to the calls that succeeded. -/
structure Mirrors (capacity : Nat) (relay : WindowRelay) (past : List Call) : Prop where
  sized : relay.ring.capacity = capacity
  roomy : batchSize ≤ capacity
  placed : relay.ring.IsPlaced
  fresh : relay.chain = none → ∀ height, relay.ring.recorded? height = none
  shows : ∀ {chain}, relay.chain = some chain →
    ∃ best, BestChain.ofCalls past = some best ∧ Tracks chain best ∧ relay.ring.Shows best

theorem mirrors_create {constants : Network.Constants} {governance : String}
    (created : create capacity constants governance = .ok relay) : relay.Mirrors capacity [] := by
  unfold create at created
  split at created
  next => cases created
  next large =>
    cases created
    have roomy : batchSize ≤ capacity := Nat.le_of_not_lt large
    have positive : 0 < capacity := Nat.lt_of_lt_of_le (by decide) roomy
    exact ⟨Ring.capacity_empty capacity positive, roomy, Ring.isPlaced_empty capacity positive,
      fun _ height => Ring.recorded?_empty capacity positive height, nofun⟩

theorem Mirrors.of_succeeds (mirrors : relay.Mirrors capacity past)
    (succeeds : relay.Succeeds call next) : next.Mirrors capacity (past ++ [call]) := by
  obtain ⟨sized, roomy, placed, fresh, shows_⟩ := mirrors
  cases succeeds with
  | @genesis _ _ _ height _ tipHeader _ noChain _ decodedTip =>
      refine ⟨by rwa [Ring.capacity_record], roomy, placed.record, nofun, ?_⟩
      rintro _ ⟨⟩
      refine ⟨⟨height, [tipHeader]⟩, ?_, ⟨rfl, rfl, .singleton _⟩,
        Ring.shows_record (fresh noChain) tipHeader⟩
      simp [BestChain.after, decodedTip]
  | @addHeaders ancestor tip _ chain first added crossed tracked decoded counted found above
      higher passed =>
      refine ⟨by rwa [Ring.capacity_recordAll], roomy, placed.recordAll, nofun, ?_⟩
      rintro _ ⟨⟩
      obtain ⟨best, isBest, tracks, shown⟩ := shows_ tracked
      obtain ⟨covered, block, atAncestor, same⟩ := shown.recorded?_eq_some_iff.mp found
      have started : best.genesisHeight.toNat ≤ ancestor.toNat :=
        (Nat.le_max_left _ _).trans covered.1
      -- Six headers are added, and they lead above the tip.
      have six : added.length = 6 := by
        simpa [batchSize] using counted
      have tipAt : tip.toNat = ancestor.toNat + 6 := Height.up?_eq_some_iff.mp above
      have := tip.toNat_lt
      have := UInt32.lt_iff_toNat_lt.mp higher
      have := tracks.tip
      simp only [batchSize] at roomy
      refine ⟨best.reorganize ancestor added, ?_, ⟨?_, ?_, ?_⟩, ?_⟩
      · simp [isBest, BestChain.after, decoded]
      · simp [tracks.genesisHeight]
      · rw [tip_extendTo, BestChain.above_reorganize started covered.2]
        omega
      · exact BestChain.linked_reorganize tracks.linked started atAncestor same
          (linked_of_checkHeaders passed)
      · exact shown.recordAll covered (by omega) (by omega) (by omega)
  | query asked =>
      refine ⟨sized, roomy, placed, fresh, ?_⟩
      rw [BestChain.ofCalls_concat, BestChain.after_of_isQuery asked]
      exact shows_

theorem mirrors_run {constants : Network.Constants} {governance : String} {start : WindowRelay}
    (created : create capacity constants governance = .ok start) (calls : List Call) :
    (start.run calls).Mirrors capacity (start.accepted calls) :=
  run_induction (Mirrors capacity) (mirrors_create created)
    (fun mirrors succeeds => mirrors.of_succeeds succeeds) calls

/-! ## What the relay tells -/

/-- What a relay of a capacity tells of its best chain. -/
structure Exhibits (relay : WindowRelay) (capacity : Nat) (best : BestChain)
    (oldest tip : Height) : Prop where
  range : relay.range = .ok (oldest, tip)
  height : relay.height = .ok tip
  /-- The tip is the last block. -/
  tip_toNat : tip.toNat + 1 = best.genesisHeight.toNat + best.blocks.length
  /-- The range has as many blocks as there are slots, or begins at genesis. -/
  oldest_toNat : oldest.toNat = max best.genesisHeight.toNat (tip.toNat + 1 - capacity)
  recorded_iff : ∀ height hash, relay.isRecorded height hash = true ↔
    oldest ≤ height ∧ height ≤ tip ∧
      ∃ block, best.at? height.toNat = some block ∧ block.hash = hash
  linked : ∀ {number lower upper}, best.at? number = some lower →
    best.at? (number + 1) = some upper → upper.previous = lower.hash

theorem Mirrors.exhibits (mirrors : relay.Mirrors capacity past)
    (initialized : relay.chain ≠ none) :
    ∃ best oldest tip, BestChain.ofCalls past = some best ∧
      relay.Exhibits capacity best oldest tip := by
  obtain ⟨sized, roomy, _, _, shows_⟩ := mirrors
  obtain ⟨chain, tracked⟩ := Option.ne_none_iff_exists'.mp initialized
  obtain ⟨best, isBest, tracks, shown⟩ := shows_ tracked
  have tip_toNat := tracks.tip
  obtain ⟨oldest, isOldest⟩ : ∃ oldest,
      max chain.genesisHeight (chain.tip.down (relay.capacity - 1)) = oldest := ⟨_, rfl⟩
  have oldest_toNat : oldest.toNat = best.oldest capacity := by
    rw [← isOldest, Height.toNat_max, Height.toNat_down, tracks.genesisHeight, BestChain.oldest,
      WindowRelay.capacity, sized]
    simp only [batchSize] at roomy
    omega
  refine ⟨best, oldest, chain.tip, isBest, range_eq_ok_iff.mpr ⟨chain, tracked, isOldest, rfl⟩,
    height_eq_ok_iff.mpr ⟨chain, tracked, rfl⟩, tip_toNat, ?_, ?_,
    BestChain.previous_of_linked tracks.linked⟩
  · rw [oldest_toNat, BestChain.oldest, tip_toNat]
  · intro height hash
    rw [isRecorded_iff, shown.recorded?_eq_some_iff, sized, BestChain.Covers, ← oldest_toNat,
      ← tip_toNat, Nat.lt_succ_iff, and_assoc, UInt32.le_iff_toNat_le, UInt32.le_iff_toNat_le]

/-- In every run the window shows the last blocks of the best chain that the
successful calls built, as many as its capacity, and nothing else. -/
theorem run_exhibits_best_chain {constants : Network.Constants} {governance : String}
    {start : WindowRelay} (created : create capacity constants governance = .ok start)
    (calls : List Call) (initialized : (start.run calls).chain ≠ none) :
    ∃ best oldest tip, BestChain.ofCalls (start.accepted calls) = some best ∧
      (start.run calls).Exhibits capacity best oldest tip :=
  (mirrors_run created calls).exhibits initialized

/-- A header and others on top of it, with the given nonces. -/
def stack (first : Header) : List UInt32 → List Header
  | [] => [first]
  | nonce :: rest => first :: stack (.easy first.hash nonce) rest

/-- The smallest relay of the test network. -/
def testRelay : WindowRelay where
  constants := Network.regtest.constants
  governance := "governance"
  ring := .empty 7 (by decide)

/-- Genesis, which someone else tried before, and a batch. -/
def testCalls : List Call :=
  let block := Header.easy .zero 0
  [.genesis "mallory" block.encode block.encode 1,
    .genesis "governance" block.encode block.encode 1,
    .addHeaders 1 (Header.encodeChain (stack block [2, 1, 0, 0, 0, 2]))]

theorem testRelay_exhibits_best_chain :
    (testRelay.run testCalls).range = .ok (1, 7) ∧
      ∃ best oldest tip, BestChain.ofCalls (testRelay.accepted testCalls) = some best ∧
        (testRelay.run testCalls).Exhibits 7 best oldest tip := by
  have created : create 7 Network.regtest.constants "governance" = .ok testRelay := rfl
  have range : (testRelay.run testCalls).range = .ok (1, 7) := by decide +kernel
  obtain ⟨chain, tracked, _⟩ := range_eq_ok_iff.mp range
  exact ⟨range, run_exhibits_best_chain created testCalls (by simp [tracked])⟩

end HeaderRelay.WindowRelay
