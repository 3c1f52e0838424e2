import HeaderRelay.Proofs.WindowRelay.Refinement
import HeaderRelay.Proofs.WindowRelay.Targets

/-!
# What batches do to the chain

In a run the tracked chain and the best chain are started by one genesis and from
then on changed by batches alone.  This module says once what is known of a batch
that is taken in, and turns that into an induction over runs: what holds of the two
chains after genesis, and is kept by every batch, holds in every state.
-/

namespace HeaderRelay

namespace BestChain

variable {best : BestChain} {number : Nat} {block : Header}

theorem at?_eq_some_iff :
    best.at? number = some block ↔
      best.genesisHeight.toNat ≤ number ∧
        best.blocks[number - best.genesisHeight.toNat]? = some block := by
  rcases Nat.lt_or_ge number best.genesisHeight.toNat with before | started
  · simp [at?_of_lt best before, before]
  · rw [at?_of_le best started, and_iff_right started]

theorem lt_above_of_at? (found : best.at? number = some block) : number < best.above := by
  obtain ⟨started, listed⟩ := at?_eq_some_iff.mp found
  obtain ⟨inside, _⟩ := List.getElem?_eq_some_iff.mp listed
  rw [above]
  omega

theorem exists_at? (started : best.genesisHeight.toNat ≤ number) (below : number < best.above) :
    ∃ block, best.at? number = some block := by
  rw [above] at below
  exact ⟨_, at?_eq_some_iff.mpr ⟨started, List.getElem?_eq_getElem (by omega)⟩⟩

theorem mem_of_at? (found : best.at? number = some block) : block ∈ best.blocks :=
  List.mem_of_getElem? (at?_eq_some_iff.mp found).2

end BestChain

namespace WindowRelay

variable {relay next : WindowRelay} {chain : TrackedChain} {best : BestChain}
  {ancestor tip : Height} {base : EpochStart} {crossed : Option EpochStart}
  {first : Header} {added : List Header} {past : List Call} {call : Call} {capacity : Nat}

/-- What is known of a batch that is taken in: seven linked headers with valid work
and targets that they may carry, on top of a block of the best chain and leading
above its tip. -/
structure Batch (chain : TrackedChain) (best : BestChain) (ancestor tip : Height)
    (base : EpochStart) (crossed : Option EpochStart) (first : Header) (added : List Header) :
    Prop where
  ends : chain.tip.toNat + 1 = best.above
  started : best.genesisHeight.toNat ≤ ancestor.toNat
  below : ancestor.toNat ≤ chain.tip.toNat
  joins : ∃ block, best.at? ancestor.toNat = some block ∧ block.hash = first.hash
  six : added.length = 6
  leads : tip.toNat = ancestor.toNat + 6
  higher : chain.tip.toNat < tip.toNat
  begins : startFor chain ancestor = .ok base
  follows : Follows chain.epochStart base ancestor (first :: added) crossed
  linked : Header.Linked (first :: added)
  works : ∀ block ∈ first :: added, block.hasValidWork = true

theorem exists_batch {constants : Network.Constants} (tracks : Tracks chain best)
    (shown : relay.ring.Shows best) (counted : (first :: added).length = batchSize)
    (found : relay.ring.recorded? ancestor = some first.hash)
    (above : ancestor.up? (batchSize - 1) = some tip) (higher : chain.tip < tip)
    (passed : checkHeaders constants chain ancestor (first :: added) = .ok crossed) :
    ∃ base, Batch chain best ancestor tip base crossed first added := by
  obtain ⟨covered, joins⟩ := shown.recorded?_eq_some_iff.mp found
  have known := covered.2
  have ends := tracks.tip
  have leads := Height.up?_eq_some_iff.mp above
  have inRange := tip.toNat_lt
  rw [batchSize] at leads counted
  have passes := (checkHeaders_eq_ok_iff_follows (by omega) (by omega)).mp passed
  obtain ⟨base, begins, follows, linked, works⟩ := passes
  exact ⟨base, ends, (Nat.le_max_left _ _).trans covered.1, by omega, joins,
    Nat.succ.inj counted, leads, UInt32.lt_iff_toNat_lt.mp higher, begins, follows, linked, works⟩

theorem Batch.known (batch : Batch chain best ancestor tip base crossed first added) :
    ancestor.toNat < best.above := by
  rw [← batch.ends]
  exact Nat.lt_succ_of_le batch.below

theorem Batch.le_tip_of_at? (batch : Batch chain best ancestor tip base crossed first added)
    {number : Nat} {block : Header} (found : best.at? number = some block) :
    number ≤ chain.tip.toNat := by
  have ends := batch.ends
  have below := BestChain.lt_above_of_at? found
  omega

/-- The block that a batch puts at a height. -/
theorem Batch.at? (batch : Batch chain best ancestor tip base crossed first added)
    {number : Nat} (replaced : ancestor.toNat < number) :
    (best.reorganize ancestor added).at? number =
      (first :: added)[number - ancestor.toNat]? := by
  have offset : number - ancestor.toNat = number - (ancestor.toNat + 1) + 1 := by
    omega
  rw [BestChain.at?_reorganize_of_gt batch.started batch.known replaced, offset,
    List.getElem?_cons_succ]

/-- The height of a block that a batch puts on the chain. -/
theorem Batch.le_tip (batch : Batch chain best ancestor tip base crossed first added)
    {number : Nat} {block : Header} (replaced : ancestor.toNat < number)
    (found : (best.reorganize ancestor added).at? number = some block) :
    number ≤ tip.toNat := by
  rw [batch.at? replaced] at found
  obtain ⟨listed, _⟩ := List.getElem?_eq_some_iff.mp found
  rw [List.length_cons, batch.six] at listed
  have leads := batch.leads
  omega

/-! ## Runs -/

/-- Whether a property of a history, the tracked chain and the best chain holds
after genesis. -/
def Established (Holds : List Call → TrackedChain → BestChain → Prop) : Prop :=
  ∀ ⦃past caller epochStart tip height startHeader tipHeader⦄,
    Header.decode epochStart = .ok startHeader → Header.decode tip = .ok tipHeader →
    Agree startHeader tipHeader height →
    Holds (past ++ [.genesis caller epochStart tip height])
      ⟨height, height, ⟨Epoch.startOf height, startHeader⟩, none⟩ ⟨height, [tipHeader]⟩

/-- Whether such a property is kept by batches and by calls that only ask. -/
structure Preserved (Holds : List Call → TrackedChain → BestChain → Prop) : Prop where
  batch : ∀ {past chain best ancestor bytes tip base crossed first added},
    Holds past chain best → Header.decodeChain bytes = .ok (first :: added) →
    Batch chain best ancestor tip base crossed first added →
    Holds (past ++ [.addHeaders ancestor bytes]) (extendTo chain tip crossed)
      (best.reorganize ancestor added)
  query : ∀ {past chain best call}, Holds past chain best → call.isQuery = true →
    Holds (past ++ [call]) chain best

/-- What a run that begins with a relay and its history leads to: a relay that
mirrors its own history, has a chain if the first one had, and whose chain has a
property. -/
structure Keeps (Holds : List Call → TrackedChain → BestChain → Prop) (capacity : Nat)
    (relay : WindowRelay) (past : List Call) (later : WindowRelay) (calls : List Call) :
    Prop where
  mirrors : later.Mirrors capacity (past ++ calls)
  fresh : later.chain = none → relay.chain = none
  holds : ∀ {chain best}, later.chain = some chain →
    BestChain.ofCalls (past ++ calls) = some best → Holds (past ++ calls) chain best

/-- A run keeps a property that holds of the chain there is, or of the one that
genesis starts, and that batches preserve. -/
theorem Mirrors.keeps_run {Holds : List Call → TrackedChain → BestChain → Prop}
    (mirrors : relay.Mirrors capacity past)
    (initially : ∀ {chain best}, relay.chain = some chain →
      BestChain.ofCalls past = some best → Holds past chain best)
    (established : relay.chain = none → Established Holds) (preserved : Preserved Holds)
    (calls : List Call) :
    Keeps Holds capacity relay past (relay.run calls) (relay.accepted calls) := by
  refine run_induction (Keeps Holds capacity relay past) ?_ ?_ calls
  · refine ⟨by rwa [List.append_nil], id, ?_⟩
    rw [List.append_nil]
    exact initially
  · intro later next calls call keeps succeeds
    refine ⟨?_, ?_, ?_⟩
    · rw [← List.append_assoc]
      exact keeps.mirrors.of_succeeds succeeds
    · cases succeeds with
      | genesis => nofun
      | addHeaders => nofun
      | query => exact keeps.fresh
    · rw [← List.append_assoc]
      intro chain best tracked isBest
      rw [BestChain.ofCalls_concat] at isBest
      cases succeeds with
      | genesis governed fresh decodedStart decodedTip agree =>
          cases tracked
          simp only [BestChain.after, decodedTip] at isBest
          cases isBest
          exact established (keeps.fresh fresh) decodedStart decodedTip agree
      | addHeaders wasTracked decoded counted found above higher passed =>
          cases tracked
          obtain ⟨was, wasBest, tracks, shown⟩ := keeps.mirrors.shows wasTracked
          simp only [wasBest, BestChain.after, decoded] at isBest
          cases isBest
          obtain ⟨base, batched⟩ := exists_batch tracks shown counted found above higher passed
          exact preserved.batch (keeps.holds wasTracked wasBest) decoded batched
      | query asked =>
          rw [BestChain.after_of_isQuery asked] at isBest
          exact preserved.query (keeps.holds tracked isBest) asked

theorem exists_of_create {constants : Network.Constants} {governance : String}
    (created : create capacity constants governance = .ok relay) :
    ∃ ring, relay = { constants := constants, governance := governance, ring := ring } := by
  unfold create at created
  split at created
  next => cases created
  next => exact ⟨_, (Except.ok.inj created).symm⟩

theorem keeps_run {Holds : List Call → TrackedChain → BestChain → Prop}
    {constants : Network.Constants} {governance : String} {start : WindowRelay}
    (created : create capacity constants governance = .ok start)
    (established : Established Holds) (preserved : Preserved Holds) (calls : List Call) :
    Keeps Holds capacity start [] (start.run calls) (start.accepted calls) := by
  refine (mirrors_create created).keeps_run ?_ (fun _ => established) preserved calls
  intro chain best tracked
  obtain ⟨_, rfl⟩ := exists_of_create created
  cases tracked

end WindowRelay

end HeaderRelay
