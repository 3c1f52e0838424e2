import HeaderRelay.Proofs.Encoding
import HeaderRelay.Proofs.WindowRelay.Batches

/-!
# How a window keeps track of epochs

A window remembers the first block of the epoch of its tip and, once it has seen a
boundary, the first block of the epoch before.  A batch moves these epoch starts
in one of three ways: it stays within the epoch of the tip, it begins below the
start of that epoch and puts another block with the same target there, or it
opens the next epoch.  Since a batch leads above the tip and is far shorter than
an epoch, there is no other way.

So every block of the best chain carries the target of the epoch that it is in,
as far as that epoch is still tracked.
-/

namespace HeaderRelay

/-- Whether a height is in the epoch that a block starts. -/
def EpochStart.Governs (start : EpochStart) (number : Nat) : Prop :=
  start.height.toNat ≤ number ∧ number < start.height.toNat + 2016

namespace TrackedChain

variable {chain : TrackedChain} {start other : EpochStart} {number : Nat}

/-- The tracked epoch starts. -/
def starts (chain : TrackedChain) : List EpochStart :=
  chain.epochStart :: chain.previousEpochStart.toList

theorem mem_starts :
    start ∈ chain.starts ↔
      chain.epochStart = start ∨ chain.previousEpochStart = some start := by
  rw [starts, List.mem_cons, Option.mem_toList, eq_comm]

theorem epochStart_mem_starts (chain : TrackedChain) : chain.epochStart ∈ chain.starts :=
  mem_starts.mpr (.inl rfl)

theorem mem_starts_of_previous (old : chain.previousEpochStart = some start) :
    start ∈ chain.starts :=
  mem_starts.mpr (.inr old)

/-- The epoch start that counts as the previous one. -/
def previousStart (chain : TrackedChain) : EpochStart :=
  chain.previousEpochStart.getD chain.epochStart

/-- The difficulties that proofs are held against. -/
def difficulties (chain : TrackedChain) (constants : Network.Constants) : EpochDifficulties :=
  ⟨chain.previousStart.header.difficulty constants,
    chain.epochStart.header.difficulty constants⟩

theorem previousStart_mem_starts (chain : TrackedChain) : chain.previousStart ∈ chain.starts := by
  rw [previousStart]
  cases old : chain.previousEpochStart with
  | none => exact chain.epochStart_mem_starts
  | some start => exact mem_starts_of_previous old

/-- Whether the tracked epoch starts stand at the last boundary below the tip and
at the one before. -/
structure IsPaced (chain : TrackedChain) : Prop where
  current : chain.epochStart.height.toNat = chain.tip.toNat - chain.tip.toNat % 2016
  previous : ∀ start, chain.previousEpochStart = some start →
    start.height.toNat + 2016 = chain.epochStart.height.toNat

/-- No height is in two epochs. -/
theorem IsPaced.eq_of_governs (paced : chain.IsPaced) (member : start ∈ chain.starts)
    (otherMember : other ∈ chain.starts) (governs : start.Governs number)
    (otherGoverns : other.Governs number) : start = other := by
  simp only [EpochStart.Governs] at governs otherGoverns
  rcases mem_starts.mp member with rfl | old
  · rcases mem_starts.mp otherMember with rfl | old
    · rfl
    · have := paced.previous _ old
      omega
  · rcases mem_starts.mp otherMember with rfl | otherOld
    · have := paced.previous _ old
      omega
    · exact Option.some.inj (old.symm.trans otherOld)

/-- The current epoch reaches to the tip at least. -/
theorem IsPaced.governs_current (paced : chain.IsPaced)
    (reached : chain.epochStart.height.toNat ≤ number) (below : number ≤ chain.tip.toNat) :
    chain.epochStart.Governs number := by
  have := paced.current
  exact ⟨reached, by omega⟩

/-- The previous epoch reaches to the current one. -/
theorem IsPaced.governs_previous (paced : chain.IsPaced)
    (reached : chain.previousStart.height.toNat ≤ number)
    (below : number < chain.epochStart.height.toNat) : chain.previousStart.Governs number := by
  refine ⟨reached, ?_⟩
  rw [previousStart] at reached ⊢
  cases old : chain.previousEpochStart with
  | none =>
      rw [old, Option.getD_none] at reached
      exact absurd below (Nat.not_lt.mpr reached)
  | some start => rwa [Option.getD_some, paced.previous start old]

/-- Every height from the previous epoch up to the tip is in a tracked epoch. -/
theorem IsPaced.exists_governs (paced : chain.IsPaced)
    (reached : chain.previousStart.height.toNat ≤ number) (below : number ≤ chain.tip.toNat) :
    ∃ start ∈ chain.starts, start.Governs number := by
  rcases Nat.lt_or_ge number chain.epochStart.height.toNat with old | new
  · exact ⟨_, chain.previousStart_mem_starts, paced.governs_previous reached old⟩
  · exact ⟨_, chain.epochStart_mem_starts, paced.governs_current new below⟩

/-- The epoch start that counts at a height is the one of its epoch. -/
theorem IsPaced.startFor_eq_ok_iff (paced : chain.IsPaced) {height : Height}
    (below : height.toNat ≤ chain.tip.toNat) :
    WindowRelay.startFor chain height = .ok start ↔
      start ∈ chain.starts ∧ start.Governs height.toNat := by
  rw [WindowRelay.startFor_eq_ok_iff, UInt32.le_iff_toNat_le, UInt32.lt_iff_toNat_lt]
  constructor
  · intro found
    rcases found with ⟨reached, rfl⟩ | ⟨early, old, reached⟩
    · exact ⟨chain.epochStart_mem_starts, paced.governs_current reached below⟩
    · rw [← paced.previous _ old] at early
      exact ⟨mem_starts_of_previous old, UInt32.le_iff_toNat_le.mp reached, early⟩
  · intro conditions
    rcases conditions with ⟨member, reached, inside⟩
    rcases mem_starts.mp member with rfl | old
    · exact .inl ⟨reached, rfl⟩
    · rw [paced.previous _ old] at inside
      exact .inr ⟨inside, old, UInt32.le_iff_toNat_le.mpr reached⟩

/-- The first height after the epoch of a tracked start is the next boundary. -/
theorem IsPaced.nextStart_eq (paced : chain.IsPaced) (member : start ∈ chain.starts)
    {height : Height} (governs : start.Governs height.toNat) :
    Epoch.nextStart height = start.height.toNat + 2016 := by
  have current := paced.current
  have next := Epoch.nextStart_eq height
  obtain ⟨reached, inside⟩ := governs
  rcases mem_starts.mp member with rfl | old
  · omega
  · have := paced.previous _ old
    omega

end TrackedChain

namespace WindowRelay

variable {relay next : WindowRelay} {chain : TrackedChain} {best : BestChain}
  {ancestor tip height : Height} {base start : EpochStart} {crossed : Option EpochStart}
  {first : Header} {added : List Header} {past : List Call} {call : Call} {capacity : Nat}

theorem epochDifficulties_eq_ok_iff {epochs : EpochDifficulties} :
    relay.epochDifficulties = .ok epochs ↔
      ∃ chain, relay.chain = some chain ∧ chain.difficulties relay.constants = epochs := by
  simp only [epochDifficulties, Checks.map_eq_ok_iff, tracked_eq_ok_iff]
  rfl

/-! ## Batches -/

/-- How a batch moves the tracked epoch starts: what is in force at its ancestor,
and which epoch start it meets. -/
inductive Advance (chain : TrackedChain) (ancestor : Height) :
    EpochStart → Option EpochStart → Prop where
  /-- The batch stays within the current epoch. -/
  | within (reached : chain.epochStart.height.toNat ≤ ancestor.toNat)
      (inside : ancestor.toNat + 6 < chain.epochStart.height.toNat + 2016) :
      Advance chain ancestor chain.epochStart none
  /-- The batch begins in the previous epoch. -/
  | reopens {base start : EpochStart} (previous : chain.previousEpochStart = some base)
      (governs : base.Governs ancestor.toNat) (place : start.height = chain.epochStart.height)
      (same : start.header.target = chain.epochStart.header.target) :
      Advance chain ancestor base (some start)
  /-- The batch leads into the epoch after the current one. -/
  | opens {start : EpochStart} (reached : chain.epochStart.height.toNat ≤ ancestor.toNat)
      (place : start.height.toNat = chain.epochStart.height.toNat + 2016)
      (above : chain.tip.toNat < start.height.toNat)
      (met : start.height.toNat ≤ ancestor.toNat + 6)
      (clamped : chain.epochStart.header.target.mayBecome start.header.target = true) :
      Advance chain ancestor chain.epochStart (some start)

theorem Batch.advance (batch : Batch chain best ancestor tip base crossed first added)
    (paced : chain.IsPaced) : Advance chain ancestor base crossed := by
  have current := paced.current
  have six := batch.six
  have below := batch.below
  have higher := batch.higher
  have tipIs := batch.leads
  have follows := batch.follows
  obtain ⟨member, governs⟩ := (paced.startFor_eq_ok_iff batch.below).mp batch.begins
  have boundaryIs := paced.nextStart_eq member governs
  obtain ⟨reached, inEpoch⟩ := governs
  generalize whole : first :: added = headers at follows
  have counted : headers.length = 7 := by
    rw [← whole, List.length_cons, six]
  cases follows with
  | within inside =>
      rcases TrackedChain.mem_starts.mp member with rfl | old
      · exact .within reached (by omega)
      · have := paced.previous _ old
        omega
  | @crosses before after start boundary stands allowed =>
      rw [boundaryIs] at boundary
      rcases TrackedChain.mem_starts.mp member with rfl | old
      · have elsewhere : start.height ≠ chain.epochStart.height := by
          intro same
          rw [same] at boundary
          omega
        rw [mayOpenEpoch, if_neg elsewhere] at allowed
        rw [List.length_append, List.length_cons] at counted
        exact .opens reached boundary (by omega) (by omega) allowed
      · rw [paced.previous _ old] at boundary
        have place := UInt32.toNat_inj.mp boundary
        rw [mayOpenEpoch, if_pos place] at allowed
        exact .reopens old ⟨reached, inEpoch⟩ place (of_decide_eq_true allowed)

/-! ## The epoch starts after a batch -/

theorem extendTo_of_reopens (place : start.height = chain.epochStart.height) :
    extendTo chain tip (some start) = { chain with tip := tip, epochStart := start } := by
  rw [extendTo, if_neg (by rw [place]; exact UInt32.lt_irrefl _)]

theorem extendTo_of_opens
    (place : start.height.toNat = chain.epochStart.height.toNat + 2016) :
    extendTo chain tip (some start) =
      { chain with
        tip := tip, epochStart := start, previousEpochStart := some chain.epochStart } := by
  rw [extendTo, if_pos (UInt32.lt_iff_toNat_lt.mpr (by omega))]

namespace Advance

theorem epochStart (advance : Advance chain ancestor base crossed) :
    (extendTo chain tip crossed).epochStart = crossed.getD base := by
  cases advance with
  | within => rfl
  | reopens _ _ place => rw [extendTo_of_reopens place, Option.getD_some]
  | opens _ place => rw [extendTo_of_opens place, Option.getD_some]

/-- What is in force at the ancestor is still tracked after the batch. -/
theorem base_mem (advance : Advance chain ancestor base crossed) :
    base ∈ (extendTo chain tip crossed).starts := by
  rw [TrackedChain.mem_starts]
  cases advance with
  | within => exact .inl rfl
  | reopens previous _ place =>
      rw [extendTo_of_reopens place]
      exact .inr previous
  | opens _ place =>
      rw [extendTo_of_opens place]
      exact .inr rfl

theorem isPaced (advance : Advance chain ancestor base crossed) (paced : chain.IsPaced)
    (batch : Batch chain best ancestor tip base crossed first added) :
    (extendTo chain tip crossed).IsPaced := by
  have current := paced.current
  have tipIs := batch.leads
  have below := batch.below
  have higher := batch.higher
  cases advance with
  | within reached inside =>
      refine ⟨?_, paced.previous⟩
      simp only [extendTo]
      omega
  | @reopens _ start previous governs place same =>
      rw [extendTo_of_reopens place]
      have spaced := paced.previous _ previous
      have below := governs.2
      refine ⟨?_, ?_⟩
      · simp only [place]
        omega
      · simp only [place]
        exact paced.previous
  | opens reached place above =>
      rw [extendTo_of_opens place]
      refine ⟨by dsimp only; omega, ?_⟩
      rintro _ ⟨⟩
      exact place.symm

/-- An epoch start that is tracked after the batch was tracked before and is not
above the ancestor, or it is met in the batch. -/
theorem mem_starts (advance : Advance chain ancestor base crossed) (paced : chain.IsPaced)
    (below : ancestor.toNat ≤ chain.tip.toNat)
    (member : start ∈ (extendTo chain tip crossed).starts) :
    start ∈ chain.starts ∧ start.height.toNat ≤ ancestor.toNat ∨
      crossed = some start ∧ ancestor.toNat < start.height.toNat := by
  rw [TrackedChain.mem_starts] at member ⊢
  cases advance with
  | within reached inside =>
      left
      refine ⟨member, ?_⟩
      rcases member with rfl | old
      · exact reached
      · have := paced.previous _ old
        omega
  | @reopens _ opening previous governs place same =>
      have spaced := paced.previous _ previous
      simp only [EpochStart.Governs] at governs
      rw [extendTo_of_reopens place] at member
      rcases member with rfl | old
      · exact .inr ⟨rfl, by rw [place]; omega⟩
      · cases previous.symm.trans old
        exact .inl ⟨.inr previous, governs.1⟩
  | opens reached place above =>
      rw [extendTo_of_opens place] at member
      rcases member with rfl | old
      · exact .inr ⟨rfl, Nat.lt_of_le_of_lt below above⟩
      · cases old
        exact .inl ⟨.inl rfl, reached⟩

/-- What is in force at a height of the batch is the start of the epoch that the
height is in after the batch. -/
theorem inForce (advance : Advance chain ancestor base crossed) (paced : chain.IsPaced)
    (batch : Batch chain best ancestor tip base crossed first added)
    {number : Nat} (after : ancestor.toNat ≤ number) (below : number ≤ tip.toNat) :
    ∃ start ∈ (extendTo chain tip crossed).starts, start.Governs number ∧
      (if number < Epoch.nextStart ancestor then base else crossed.getD base) = start := by
  obtain ⟨member, governs⟩ := (paced.startFor_eq_ok_iff batch.below).mp batch.begins
  have boundary := paced.nextStart_eq member governs
  have leads := batch.leads
  split
  next early => exact ⟨base, advance.base_mem, ⟨governs.1.trans after, by omega⟩, rfl⟩
  next late =>
    have paced := advance.isPaced paced batch
    have entered : (extendTo chain tip crossed).epochStart = crossed.getD base :=
      advance.epochStart
    have current := paced.current
    rw [entered, tip_extendTo] at current
    rw [← entered]
    refine ⟨_, TrackedChain.epochStart_mem_starts _, ?_, rfl⟩
    apply paced.governs_current
    · rw [entered, current]
      have := Epoch.nextStart_eq ancestor
      omega
    · rwa [tip_extendTo]

theorem clamped (advance : Advance chain ancestor base crossed)
    (clamped : ∀ start, chain.previousEpochStart = some start →
      start.header.target.mayBecome chain.epochStart.header.target = true) :
    ∀ start, (extendTo chain tip crossed).previousEpochStart = some start →
      start.header.target.mayBecome
        (extendTo chain tip crossed).epochStart.header.target = true := by
  cases advance with
  | within => exact clamped
  | reopens _ _ place same =>
      rw [extendTo_of_reopens place]
      dsimp only
      rw [same]
      exact clamped
  | opens _ place _ _ clamped =>
      rw [extendTo_of_opens place]
      rintro _ ⟨⟩
      exact clamped

end Advance

/-! ## The invariant -/

/-- What the tracked epoch starts have to do with the best chain. -/
structure KeepsEpochs (chain : TrackedChain) (best : BestChain) : Prop where
  paced : chain.IsPaced
  /-- An epoch start that is not below genesis is a block of the chain. -/
  opened : ∀ start ∈ chain.starts, best.genesisHeight.toNat ≤ start.height.toNat →
    best.at? start.height.toNat = some start.header
  /-- The blocks of a tracked epoch carry the target of its start. -/
  targets : ∀ start ∈ chain.starts, ∀ {number block}, start.Governs number →
    best.at? number = some block → block.target = start.header.target
  clamped : ∀ start, chain.previousEpochStart = some start →
    start.header.target.mayBecome chain.epochStart.header.target = true

theorem keepsEpochs_genesis {startHeader tipHeader : Header}
    (agree : Agree startHeader tipHeader height) :
    KeepsEpochs ⟨height, height, ⟨Epoch.startOf height, startHeader⟩, none⟩
      ⟨height, [tipHeader]⟩ := by
  refine ⟨⟨Epoch.toNat_startOf height, nofun⟩, ?_, ?_, nofun⟩
  · intro start member started
    cases List.mem_singleton.mp member
    have boundary : height = Epoch.startOf height := by
      rw [← UInt32.toNat_inj]
      have := Epoch.toNat_startOf height
      simp only at started
      omega
    rw [← boundary, agree.1 boundary, BestChain.at?_of_le _ (Nat.le_refl _)]
    simp
  · intro start member number block _ found
    cases List.mem_singleton.mp member
    rcases Nat.lt_or_ge number height.toNat with before | started
    · rw [BestChain.at?_of_lt _ before] at found
      cases found
    · rw [BestChain.at?_of_le _ started] at found
      obtain rfl := List.mem_singleton.mp (List.mem_of_getElem? found)
      rw [Header.target, Header.target, agree.2]

theorem KeepsEpochs.extend (keeps : KeepsEpochs chain best)
    (batch : Batch chain best ancestor tip base crossed first added) :
    KeepsEpochs (extendTo chain tip crossed) (best.reorganize ancestor added) := by
  have advance := batch.advance keeps.paced
  have paced := advance.isPaced keeps.paced batch
  refine ⟨paced, ?_, ?_, advance.clamped keeps.clamped⟩
  · intro start member fromGenesis
    rcases advance.mem_starts keeps.paced batch.below member with ⟨old, below⟩ | ⟨rfl, above⟩
    · rw [BestChain.at?_reorganize_of_le batch.known below]
      exact keeps.opened start old fromGenesis
    · rw [batch.at? above]
      exact batch.follows.listed
  · intro start member number block governs found
    rcases Nat.lt_or_ge ancestor.toNat number with replaced | kept
    · obtain ⟨other, otherMember, otherGoverns, inForce⟩ :=
        advance.inForce keeps.paced batch (Nat.le_of_lt replaced) (batch.le_tip replaced found)
      rw [batch.at? replaced] at found
      rw [batch.follows.target found, Nat.add_sub_cancel' (Nat.le_of_lt replaced), inForce,
        paced.eq_of_governs member otherMember governs otherGoverns]
    · rw [BestChain.at?_reorganize_of_le batch.known kept] at found
      rcases advance.mem_starts keeps.paced batch.below member with ⟨old, _⟩ | ⟨_, above⟩
      · exact keeps.targets start old governs found
      · exact absurd (governs.1.trans kept) (Nat.not_le.mpr above)

theorem established_keepsEpochs : Established fun _ chain best => KeepsEpochs chain best := by
  intro _ _ _ _ _ _ _ _ _ agree
  exact keepsEpochs_genesis agree

theorem preserved_keepsEpochs : Preserved fun _ chain best => KeepsEpochs chain best where
  batch keeps _ batch := keeps.extend batch
  query keeps _ := keeps

/-! ## A run across a boundary -/

/-- The best chain of a batch directly on top of genesis. -/
theorem ofCalls_genesis_addHeaders (caller : String) (block : Header) (height : Height)
    (added : List Header) :
    BestChain.ofCalls [.genesis caller block.encode block.encode height,
      .addHeaders height (Header.encodeChain (block :: added))] =
        some ⟨height, block :: added⟩ := by
  simp [BestChain.ofCalls, BestChain.after, BestChain.reorganize]

/-- Headers on top of a header, with the given compact targets and nonces. -/
def tower (first : Header) : List (UInt32 × UInt32) → List Header
  | [] => [first]
  | (bits, nonce) :: rest => first :: tower ⟨1, first.hash, .zero, 1, bits, nonce⟩ rest

/-- A block at height 2013 and six more, where that at height 2016 halves the
target. -/
def crossingBlocks : List Header :=
  tower (.easy .zero 0) [(0x207FFFFF, 2), (0x207FFFFF, 1), (0x203FFFFF, 0), (0x203FFFFF, 3),
    (0x203FFFFF, 6), (0x203FFFFF, 2)]

/-- Genesis three blocks below the boundary and a batch across it. -/
def crossingCalls : List Call :=
  let block := Header.easy .zero 0
  [.genesis "governance" block.encode block.encode 2013,
    .addHeaders 2013 (Header.encodeChain crossingBlocks)]

theorem testRelay_crosses :
    testRelay.accepted crossingCalls = crossingCalls ∧
      (testRelay.run crossingCalls).range = .ok (2013, 2019) ∧
      (testRelay.run crossingCalls).chain.map
        (fun chain => (chain.epochStart.height, chain.previousStart.height)) = some (2016, 0) := by
  decide +kernel

end WindowRelay

end HeaderRelay
