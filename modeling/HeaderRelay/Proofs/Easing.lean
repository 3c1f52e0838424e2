import HeaderRelay.Proofs.EpochRelay.Records
import HeaderRelay.Proofs.WindowRelay.Epochs

/-!
# How easy epochs become

The targets of successive epochs are held against each other and against nothing
else: neither relay looks at the easiest target of its network.  So each epoch may
be four times as easy as the one before it, and the bound of the network holds for
the genesis alone.

Where difficulties are measured against that easiest target, an epoch beyond it is
one of difficulty zero.
-/

namespace HeaderRelay

namespace Network

/-- The easiest target of a network. -/
def Constants.limit (constants : Constants) : Target :=
  Target.ofBits constants.maxBits

theorem reference_constants (network : Network) :
    network.constants.reference = network.constants.limit := by
  cases network <;> decide

end Network

variable {constants : Network.Constants}

/-- What is known of the target and the difficulty of an epoch, so many epochs after
one within the limit of the network. -/
structure Network.Constants.EasesTo (constants : Network.Constants) (distance : Nat)
    (target : Target) (difficulty : Difficulty) : Prop where
  bounded : target.toNat ≤ 4 ^ distance * constants.limit.toNat
  zero_iff : difficulty = 0 ↔ constants.limit.toNat < target.toNat

/-! ## Records -/

namespace EpochRecord

theorem Follows.mayBecome {previous next : EpochRecord} (follows : previous.Follows next) :
    previous.target.mayBecome next.target = true := by
  have positive := Target.toNat_pos_iff.mpr follows.nonzero
  have upper := follows.upper
  exact Target.mayBecome_iff.mpr
    ⟨Target.toNat_pos_iff.mp (by omega), follows.nonzero, follows.lower, upper⟩

theorem IsMeasured.zero_iff {record : EpochRecord} (measured : record.IsMeasured constants) :
    record.difficulty = 0 ↔ constants.reference.toNat < record.target.toNat := by
  have same : record.difficulty = record.target.difficulty constants.reference := by
    rw [← BitVec.toNat_inj, Target.toNat_difficulty]
    exact measured
  rw [same, Target.difficulty_eq_zero_iff]

end EpochRecord

theorem EpochRelay.Lawful.target_le {relay : EpochRelay} (lawful : relay.Lawful)
    {first : EpochRecord} (isFirst : relay.epochs.head? = some first) {index : Nat}
    {record : EpochRecord} (found : relay.epochs[index]? = some record) :
    record.target.toNat ≤ 4 ^ index * first.target.toNat := by
  induction index generalizing record with
  | zero =>
      rw [← List.head?_eq_getElem?, isFirst] at found
      cases found
      rw [Nat.pow_zero, Nat.one_mul]
  | succ index ih =>
      obtain ⟨inside, _⟩ := List.getElem?_eq_some_iff.mp found
      have older : relay.epochs[index]? = some relay.epochs[index] :=
        List.getElem?_eq_getElem (Nat.lt_of_succ_lt inside)
      calc record.target.toNat
          ≤ 4 * relay.epochs[index].target.toNat := (lawful.follows older found).upper
        _ ≤ 4 * (4 ^ index * first.target.toNat) := Nat.mul_le_mul_left 4 (ih older)
        _ = 4 ^ (index + 1) * first.target.toNat := by
            rw [Nat.pow_succ', Nat.mul_assoc]

/-! ## Epoch starts -/

namespace WindowRelay

variable {chain : TrackedChain} {best : BestChain} {ancestor tip : Height}
  {base start : EpochStart} {crossed : Option EpochStart} {first genesis : Header}
  {added : List Header}

/-- Whether an epoch start is not in an epoch before genesis and at most so much
easier than the block of genesis as its distance allows. -/
structure EasesFrom (genesisHeight : Height) (genesis : Header) (start : EpochStart) :
    Prop where
  since : genesisHeight.toNat / 2016 ≤ start.height.toNat / 2016
  bounded : start.header.target.toNat ≤
    4 ^ (start.height.toNat / 2016 - genesisHeight.toNat / 2016) * genesis.target.toNat

/-- The epoch start that a batch meets is like the one that it replaces, or at most
four times as easy as the one before. -/
theorem Advance.easesFrom {genesisHeight : Height}
    (advance : Advance chain ancestor base (some start))
    (eases : EasesFrom genesisHeight genesis chain.epochStart) :
    EasesFrom genesisHeight genesis start := by
  have since := eases.since
  cases advance with
  | reopens _ _ place same =>
      refine ⟨by rwa [place], ?_⟩
      rw [place, same]
      exact eases.bounded
  | opens _ place _ _ clamped =>
      obtain ⟨_, _, _, upper⟩ := Target.mayBecome_iff.mp clamped
      have next : start.height.toNat / 2016 = chain.epochStart.height.toNat / 2016 + 1 := by
        rw [place]
        exact Nat.add_div_right _ (by decide)
      refine ⟨by omega, ?_⟩
      rw [next, Nat.sub_add_comm since]
      calc start.header.target.toNat
          ≤ 4 * chain.epochStart.header.target.toNat := upper
        _ ≤ 4 * _ := Nat.mul_le_mul_left 4 eases.bounded
        _ = _ := by rw [Nat.pow_succ', Nat.mul_assoc]

theorem head?_blocks (best : BestChain) :
    best.blocks.head? = best.at? best.genesisHeight.toNat := by
  rw [BestChain.at?_of_le _ (Nat.le_refl _), Nat.sub_self, List.head?_eq_getElem?]

/-- Whether all tracked epoch starts are as easy as genesis allows. -/
structure KeepsEase (chain : TrackedChain) (best : BestChain) : Prop where
  epochs : KeepsEpochs chain best
  eases : ∃ genesis, best.blocks.head? = some genesis ∧
    ∀ start ∈ chain.starts, EasesFrom best.genesisHeight genesis start

theorem KeepsEase.extend (keeps : KeepsEase chain best)
    (batch : Batch chain best ancestor tip base crossed first added) :
    KeepsEase (extendTo chain tip crossed) (best.reorganize ancestor added) := by
  obtain ⟨genesis, isGenesis, eases⟩ := keeps.eases
  refine ⟨keeps.epochs.extend batch, genesis, ?_, ?_⟩
  · rwa [head?_blocks, BestChain.genesisHeight_reorganize,
      BestChain.at?_reorganize_of_le batch.known batch.started, ← head?_blocks]
  · intro start member
    have advance := batch.advance keeps.epochs.paced
    rcases advance.mem_starts keeps.epochs.paced batch.below member with ⟨old, _⟩ | ⟨rfl, _⟩
    · exact eases start old
    · exact advance.easesFrom (eases _ chain.epochStart_mem_starts)

theorem established_keepsEase : Established fun _ chain best => KeepsEase chain best := by
  intro _ _ _ _ height startHeader tipHeader _ _ agree
  refine ⟨keepsEpochs_genesis agree, tipHeader, rfl, ?_⟩
  intro start member
  cases List.mem_singleton.mp member
  have sameEpoch : (Epoch.startOf height).toNat / 2016 = height.toNat / 2016 := by
    rw [Epoch.toNat_startOf]
    omega
  refine ⟨Nat.le_of_eq sameEpoch.symm, ?_⟩
  rw [sameEpoch, Nat.sub_self, Nat.pow_zero, Nat.one_mul, Header.target, Header.target, agree.2]

theorem preserved_keepsEase : Preserved fun _ chain best => KeepsEase chain best where
  batch keeps _ batch := keeps.extend batch
  query keeps _ := keeps

end WindowRelay

/-! ## Runs of both relays -/

/-- What the records have in common after a first one within the limit. -/
structure EpochRelay.Eases (relay : EpochRelay) : Prop where
  records : ∀ {index record}, relay.epochs[index]? = some record →
    relay.constants.EasesTo index record.target record.difficulty
  steps : ∀ {index previous next}, relay.epochs[index]? = some previous →
    relay.epochs[index + 1]? = some next → previous.target.mayBecome next.target = true

theorem EpochRelay.Lawful.eases {relay : EpochRelay} (lawful : relay.Lawful)
    (measured : relay.constants.reference = relay.constants.limit)
    (within : ∀ first ∈ relay.epochs.head?,
      first.target.toNat ≤ relay.constants.limit.toNat) : relay.Eases := by
  constructor
  · intro index record found
    obtain ⟨inside, _⟩ := List.getElem?_eq_some_iff.mp found
    obtain ⟨first, isFirst⟩ : ∃ first, relay.epochs.head? = some first := by
      rw [← Option.isSome_iff_exists, List.isSome_head?]
      exact List.ne_nil_of_length_pos (Nat.zero_lt_of_lt inside)
    constructor
    · exact (lawful.target_le isFirst found).trans
        (Nat.mul_le_mul_left _ (within first isFirst))
    · rw [← measured]
      exact (lawful.measured record (List.mem_of_getElem? found)).zero_iff
  · intro index previous next older newer
    exact (lawful.follows older newer).mayBecome

/-- What the tracked epoch starts have in common after a genesis within the limit. -/
structure WindowRelay.Eases (relay : WindowRelay) (chain : TrackedChain)
    (best : BestChain) : Prop where
  starts : ∀ start ∈ chain.starts, relay.constants.EasesTo
    (start.height.toNat / 2016 - best.genesisHeight.toNat / 2016) start.header.target
    (start.header.difficulty relay.constants)
  steps : ∀ start, chain.previousEpochStart = some start →
    start.header.target.mayBecome chain.epochStart.header.target = true

theorem WindowRelay.KeepsEase.relayEases {relay : WindowRelay} {chain : TrackedChain}
    {best : BestChain} (keeps : KeepsEase chain best)
    (measured : relay.constants.reference = relay.constants.limit)
    (within : ∀ genesis ∈ best.blocks.head?,
      genesis.target.toNat ≤ relay.constants.limit.toNat) : relay.Eases chain best := by
  obtain ⟨genesis, isGenesis, eases⟩ := keeps.eases
  refine ⟨?_, keeps.epochs.clamped⟩
  intro start member
  constructor
  · exact ((eases start member).bounded).trans
      (Nat.mul_le_mul_left _ (within genesis isGenesis))
  · rw [← measured]
    exact Target.difficulty_eq_zero_iff

/-- If genesis is within the limit of the network, every epoch that a relay adopts
later may follow the one before it and so is bounded by a power of four.  Its
difficulty is zero exactly if it is beyond the limit, of which nothing keeps it. -/
theorem relays_ease_step_by_step (measured : constants.reference = constants.limit) :
    (∀ {start : EpochRelay}, start.IsInitial → start.constants = constants → ∀ calls,
      (∀ first ∈ (start.run calls).epochs.head?,
        first.target.toNat ≤ constants.limit.toNat) → (start.run calls).Eases) ∧
    ∀ {capacity governance start},
      WindowRelay.create capacity constants governance = .ok start → ∀ calls chain best,
        (start.run calls).chain = some chain →
          BestChain.ofCalls (start.accepted calls) = some best →
            (∀ genesis ∈ best.blocks.head?, genesis.target.toNat ≤ constants.limit.toNat) →
              (start.run calls).Eases chain best := by
  constructor
  · intro start initial network calls within
    rw [← network, ← EpochRelay.constants_run start calls] at measured within
    exact (EpochRelay.lawful_run initial calls).eases measured within
  · intro capacity governance start created calls chain best tracked isBest within
    have network : (start.run calls).constants = constants := by
      rw [WindowRelay.constants_run]
      obtain ⟨_, rfl⟩ := WindowRelay.exists_of_create created
      rfl
    rw [← network] at measured within
    have kept := WindowRelay.keeps_run created WindowRelay.established_keepsEase
      WindowRelay.preserved_keepsEase calls
    exact (kept.holds tracked isBest).relayEases measured within

/-- Genesis and a retarget to twice the easiest target. -/
def EpochRelay.easingCalls : List EpochRelay.Call :=
  let boundary : Header := ⟨1, easyHeader.hash, .zero, 2, 0x2100FFFF, 0⟩
  [.genesis "governance" easyHeader.encode 2016 1,
    .retarget "anyone" (Header.encodeChain [easyHeader, boundary])]

/-- A block below a boundary and others with twice the easiest target from the
boundary on. -/
def WindowRelay.easingBlocks : List Header :=
  tower (.easy .zero 0) [(0x207FFFFF, 2), (0x207FFFFF, 1), (0x2100FFFF, 0), (0x2100FFFF, 0),
    (0x2100FFFF, 0), (0x2100FFFF, 0)]

/-- Genesis three blocks below the boundary and a batch across it. -/
def WindowRelay.easingCalls : List WindowRelay.Call :=
  let block := Header.easy .zero 0
  [.genesis "governance" block.encode block.encode 2013,
    .addHeaders 2013 (Header.encodeChain easingBlocks)]

theorem WindowRelay.testRelay_adopts_easingBlocks :
    testRelay.accepted easingCalls = easingCalls ∧
      (testRelay.run easingCalls).chain.map
        (fun chain => (chain.epochStart.height, chain.epochStart.header.bits)) =
          some (2016, 0x2100FFFF) := by
  decide +kernel

theorem testRelays_ease :
    (EpochRelay.testRelay.run EpochRelay.easingCalls).epochs.length = 2 ∧
      (EpochRelay.testRelay.run EpochRelay.easingCalls).Eases ∧
      ∃ chain best, (WindowRelay.testRelay.run WindowRelay.easingCalls).chain = some chain ∧
        chain.epochStart.height = 2016 ∧
        (WindowRelay.testRelay.run WindowRelay.easingCalls).Eases chain best := by
  have eases := relays_ease_step_by_step (Network.reference_constants .regtest)
  refine ⟨by decide +kernel, ?_, ?_⟩
  · exact eases.1 (.new _ _) rfl EpochRelay.easingCalls (by decide +kernel)
  · have created : WindowRelay.create 7 Network.regtest.constants "governance" =
        .ok WindowRelay.testRelay := rfl
    obtain ⟨accepted, adopted⟩ := WindowRelay.testRelay_adopts_easingBlocks
    obtain ⟨chain, tracked, starts⟩ := Option.map_eq_some_iff.mp adopted
    have isBest : BestChain.ofCalls (WindowRelay.testRelay.accepted WindowRelay.easingCalls) =
        some ⟨2013, WindowRelay.easingBlocks⟩ := by
      rw [accepted]
      exact WindowRelay.ofCalls_genesis_addHeaders _ _ _ _
    have within : ∀ genesis ∈ WindowRelay.easingBlocks.head?,
        genesis.target.toNat ≤ Network.regtest.constants.limit.toNat := by
      intro genesis isFirst
      cases isFirst
      decide
    exact ⟨chain, _, tracked, (Prod.mk.inj starts).1,
      eases.2 created WindowRelay.easingCalls chain _ tracked isBest within⟩

/-- Both relays adopt an epoch beyond the limit, and its difficulty is zero. -/
theorem testRelays_exceed_limit :
    (∃ record ∈ (EpochRelay.testRelay.run EpochRelay.easingCalls).epochs,
        Network.regtest.constants.limit.toNat < record.target.toNat ∧ record.difficulty = 0) ∧
      ∃ chain, (WindowRelay.testRelay.run WindowRelay.easingCalls).chain = some chain ∧
        Network.regtest.constants.limit.toNat < chain.epochStart.header.target.toNat ∧
          chain.epochStart.header.difficulty Network.regtest.constants = 0 := by
  obtain ⟨_, adopted⟩ := WindowRelay.testRelay_adopts_easingBlocks
  obtain ⟨chain, tracked, starts⟩ := Option.map_eq_some_iff.mp adopted
  refine ⟨by decide +kernel, chain, tracked, ?_⟩
  rw [Header.difficulty, Header.target, (Prod.mk.inj starts).2]
  decide

end HeaderRelay
