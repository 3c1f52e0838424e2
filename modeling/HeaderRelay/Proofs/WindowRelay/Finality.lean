import HeaderRelay.Proofs.WindowRelay.Epochs

/-!
# Epoch starts and reorganizations

A reorganization may put another block at a boundary, but only one with the target
that was there before.  So a target is final as soon as its epoch was entered: the
blocks that a reorganization replaces are replaced by blocks with the same targets,
and there are more of them.  Whatever work a target stands for, the chain never
loses any.
-/

namespace HeaderRelay

namespace BestChain

variable {old new : BestChain}

/-- The work of a chain, if `measure` tells the work of a block with a target. -/
def work (measure : Target → Nat) (best : BestChain) : Nat :=
  (best.blocks.map fun block => measure block.target).sum

/-- Whether a chain is longer than another one, with the same targets at the
heights that both have. -/
structure Outgrows (new old : BestChain) : Prop where
  genesisHeight : new.genesisHeight = old.genesisHeight
  longer : old.above < new.above
  targets : ∀ {number block}, old.at? number = some block →
    ∃ other, new.at? number = some other ∧ other.target = block.target

theorem Outgrows.targets_isPrefix (outgrows : new.Outgrows old) :
    old.blocks.map Header.target <+: new.blocks.map Header.target := by
  rw [List.prefix_iff_getElem?]
  intro position inside
  rw [List.length_map] at inside
  have found : old.at? (old.genesisHeight.toNat + position) = some old.blocks[position] := by
    rw [at?_of_le _ (Nat.le_add_right _ _), Nat.add_sub_cancel_left,
      List.getElem?_eq_getElem inside]
  obtain ⟨other, foundOther, same⟩ := outgrows.targets found
  rw [← outgrows.genesisHeight, at?_of_le _ (Nat.le_add_right _ _), Nat.add_sub_cancel_left]
    at foundOther
  rw [List.getElem?_map, foundOther, List.getElem_map, Option.map_some, same]

theorem Outgrows.work_le (outgrows : new.Outgrows old) (measure : Target → Nat) :
    old.work measure ≤ new.work measure := by
  obtain ⟨more, extended⟩ := outgrows.targets_isPrefix
  have total (best : BestChain) :
      best.work measure = ((best.blocks.map Header.target).map measure).sum := by
    rw [List.map_map]
    rfl
  rw [total, total, ← extended, List.map_append, List.sum_append]
  exact Nat.le_add_right _ _

end BestChain

namespace WindowRelay

variable {relay next : WindowRelay} {chain : TrackedChain} {best : BestChain}
  {ancestor tip height : Height} {base start : EpochStart} {crossed : Option EpochStart}
  {first : Header} {added : List Header} {past : List Call} {call : Call} {capacity : Nat}
  {target : Target}

/-- An epoch start that a batch meets, but not above the tip, has the target of the
one that it replaces. -/
theorem Advance.replaces (advance : Advance chain ancestor base (some start))
    (known : start.height.toNat ≤ chain.tip.toNat) :
    start.height = chain.epochStart.height ∧
      start.header.target = chain.epochStart.header.target := by
  cases advance with
  | reopens _ _ place same => exact ⟨place, same⟩
  | opens _ _ above => exact absurd known (Nat.not_le.mpr above)

/-! ## Settled targets -/

/-- Whether the target of the epoch start at a height is settled: no other one is
tracked there, and the current epoch does not start below. -/
structure Settled (chain : TrackedChain) (height : Height) (target : Target) : Prop where
  reached : height.toNat ≤ chain.epochStart.height.toNat
  agreed : ∀ start ∈ chain.starts, start.height = height → start.header.target = target

theorem settled_of_mem (paced : chain.IsPaced) (member : start ∈ chain.starts) :
    Settled chain start.height start.header.target := by
  have reached : start.height.toNat ≤ chain.epochStart.height.toNat := by
    rcases TrackedChain.mem_starts.mp member with rfl | old
    · exact Nat.le_refl _
    · have := paced.previous _ old
      omega
  refine ⟨reached, ?_⟩
  intro other otherMember same
  have governs : start.Governs start.height.toNat := ⟨Nat.le_refl _, by omega⟩
  have otherGoverns : other.Governs start.height.toNat := by
    rw [← same]
    exact ⟨Nat.le_refl _, by omega⟩
  rw [paced.eq_of_governs otherMember member otherGoverns governs]

theorem Settled.extend (settled : Settled chain height target) (paced : chain.IsPaced)
    (batch : Batch chain best ancestor tip base crossed first added) :
    Settled (extendTo chain tip crossed) height target := by
  have advance := batch.advance paced
  have reached := settled.reached
  refine ⟨?_, ?_⟩
  · have later := (advance.isPaced paced batch).current
    rw [tip_extendTo] at later
    have current := paced.current
    have higher := batch.higher
    omega
  · intro start member same
    rcases advance.mem_starts paced batch.below member with ⟨old, _⟩ | ⟨rfl, _⟩
    · exact settled.agreed start old same
    · have current := paced.current
      rw [← same] at reached
      obtain ⟨place, sameTarget⟩ := advance.replaces (by omega)
      rw [sameTarget]
      exact settled.agreed _ chain.epochStart_mem_starts (place.symm.trans same)

/-- A target that is settled stays so in every further run. -/
theorem Settled.run (settled : Settled chain height target) (keeps : KeepsEpochs chain best)
    (mirrors : relay.Mirrors capacity past) (tracked : relay.chain = some chain)
    (isBest : BestChain.ofCalls past = some best) (calls : List Call) {later : TrackedChain}
    (laterTracked : (relay.run calls).chain = some later) : Settled later height target := by
  have kept : Keeps (fun _ chain best => KeepsEpochs chain best ∧ Settled chain height target)
      capacity relay past (relay.run calls) (relay.accepted calls) := by
    apply mirrors.keeps_run
    · intro _ _ sameChain sameBest
      cases tracked.symm.trans sameChain
      cases isBest.symm.trans sameBest
      exact ⟨keeps, settled⟩
    · intro fresh
      cases tracked.symm.trans fresh
    · constructor
      · intro _ _ _ _ _ _ _ _ _ _ holds _ batch
        exact ⟨holds.1.extend batch, holds.2.extend holds.1.paced batch⟩
      · intro _ _ _ _ holds _
        exact holds
  obtain ⟨_, laterBest, _⟩ := kept.mirrors.shows laterTracked
  exact (kept.holds laterTracked laterBest).2

/-! ## Reorganizations -/

/-- A block that is replaced had the target of the epoch that its height is in, and
so has the block that replaces it. -/
theorem KeepsEpochs.outgrows (keeps : KeepsEpochs chain best)
    (batch : Batch chain best ancestor tip base crossed first added) :
    (best.reorganize ancestor added).Outgrows best := by
  have advance := batch.advance keeps.paced
  have leads := batch.leads
  have higher := batch.higher
  have ends := batch.ends
  refine ⟨rfl, ?_, ?_⟩
  · rw [BestChain.above_reorganize batch.started batch.known, batch.six]
    omega
  · intro number block found
    have known := batch.le_tip_of_at? found
    rcases Nat.lt_or_ge ancestor.toNat number with replaced | kept
    · have inside : number - ancestor.toNat < (first :: added).length := by
        rw [List.length_cons, batch.six]
        omega
      have replacement := batch.at? replaced
      rw [List.getElem?_eq_getElem inside] at replacement
      refine ⟨_, replacement, ?_⟩
      obtain ⟨start, member, governs, _⟩ :=
        advance.inForce keeps.paced batch (Nat.le_of_lt replaced) (known.trans (by omega))
      rw [(keeps.extend batch).targets _ member governs replacement]
      rcases advance.mem_starts keeps.paced batch.below member with ⟨old, _⟩ | ⟨rfl, _⟩
      · exact (keeps.targets _ old governs found).symm
      · obtain ⟨place, same⟩ := advance.replaces (governs.1.trans known)
        rw [same]
        refine (keeps.targets _ chain.epochStart_mem_starts ?_ found).symm
        rw [EpochStart.Governs, ← place]
        exact governs
    · exact ⟨block, by rwa [BestChain.at?_reorganize_of_le batch.known kept], rfl⟩

theorem accepted_concat {answer : Answer} (calls : List Call)
    (answered : ((relay.run calls).step call).2 = .ok answer) :
    relay.accepted (calls ++ [call]) = relay.accepted calls ++ [call] := by
  have last : Runs.accepted step (relay.run calls) [call] = [call] := by
    simp [Runs.accepted, answered]
  rw [accepted, Runs.accepted_append, accepted]
  exact congrArg _ last

/-! ## Runs -/

/-- What a window tells about the epoch starts that it tracks. -/
structure TracksEpochs (relay : WindowRelay) (chain : TrackedChain) : Prop where
  /-- The current epoch starts at the last boundary that is not above the tip. -/
  current : chain.epochStart.height.toNat = chain.tip.toNat - chain.tip.toNat % 2016
  previous : ∀ start, chain.previousEpochStart = some start →
    start.height.toNat + 2016 = chain.epochStart.height.toNat
  /-- An epoch start in the range of the window is the block recorded there. -/
  recorded : ∀ start ∈ chain.starts, ∀ {oldest tip}, relay.range = .ok (oldest, tip) →
    oldest ≤ start.height → start.height ≤ tip →
      relay.isRecorded start.height start.header.hash = true

theorem KeepsEpochs.tracksEpochs (keeps : KeepsEpochs chain best)
    (mirrors : relay.Mirrors capacity past) (tracked : relay.chain = some chain)
    (isBest : BestChain.ofCalls past = some best) : relay.TracksEpochs chain := by
  refine ⟨keeps.paced.current, keeps.paced.previous, ?_⟩
  intro start member oldest tip range above below
  obtain ⟨other, oldest', tip', sameBest, exhibits⟩ := mirrors.exhibits (by simp [tracked])
  cases isBest.symm.trans sameBest
  cases range.symm.trans exhibits.range
  have fromGenesis : best.genesisHeight.toNat ≤ start.height.toNat := by
    have := exhibits.oldest_toNat
    have := UInt32.le_iff_toNat_le.mp above
    omega
  exact (exhibits.recorded_iff _ _).mpr
    ⟨above, below, start.header, keeps.opened start member fromGenesis, rfl⟩

/-- In every run the epoch starts of a window keep pace with its tip and are blocks
of its chain.  A target once tracked for a boundary is the one of every epoch start
that is tracked there later.  So whenever headers are added, in a reorganization or
not, the chain becomes longer, keeps the target of every height that it had, and
never loses work. -/
theorem run_tracks_epochs {constants : Network.Constants} {governance : String}
    {start : WindowRelay} (created : create capacity constants governance = .ok start)
    (calls : List Call) {chain : TrackedChain} (tracked : (start.run calls).chain = some chain) :
    (start.run calls).TracksEpochs chain ∧
      (∀ later {laterChain}, (start.run (calls ++ later)).chain = some laterChain →
        ∀ earlier ∈ chain.starts, ∀ other ∈ laterChain.starts,
          other.height = earlier.height → other.header.target = earlier.header.target) ∧
      ∀ {ancestor headers answer},
        ((start.run calls).step (.addHeaders ancestor headers)).2 = .ok answer →
          ∃ old new, BestChain.ofCalls (start.accepted calls) = some old ∧
            BestChain.ofCalls (start.accepted (calls ++ [.addHeaders ancestor headers])) =
              some new ∧
            new.Outgrows old ∧ ∀ measure, old.work measure ≤ new.work measure := by
  have kept := keeps_run created established_keepsEpochs preserved_keepsEpochs calls
  have mirrors := mirrors_run created calls
  obtain ⟨best, isBest, tracks, shown⟩ := mirrors.shows tracked
  have keeps := kept.holds tracked isBest
  refine ⟨keeps.tracksEpochs mirrors tracked isBest, ?_, ?_⟩
  · intro later laterChain laterTracked earlier member other otherMember same
    rw [run_append] at laterTracked
    have settled := settled_of_mem keeps.paced member
    exact (settled.run keeps mirrors tracked isBest later laterTracked).agreed other otherMember
      same
  · intro ancestor headers answer answered
    rw [accepted_concat calls answered, BestChain.ofCalls_concat, isBest]
    have succeeds := succeeds_of_step answered
    generalize ((start.run calls).step (.addHeaders ancestor headers)).1 = next at succeeds
    cases succeeds with
    | @addHeaders _ _ _ _ first added _ sameTracked decoded counted found above higher passed =>
        cases tracked.symm.trans sameTracked
        obtain ⟨base, batch⟩ := exists_batch tracks shown counted found above higher passed
        have outgrows := keeps.outgrows batch
        refine ⟨best, best.reorganize ancestor added, rfl, ?_, outgrows, outgrows.work_le⟩
        simp [BestChain.after, decoded]
    | query asked => cases asked

/-- A batch that begins below the boundary and replaces the block there. -/
def recrossingCall : Call :=
  let block := Header.easy .zero 0
  .addHeaders 2014 (Header.encodeChain (tower ⟨1, block.hash, .zero, 1, 0x207FFFFF, 2⟩
    [(0x207FFFFF, 11), (0x203FFFFF, 11), (0x203FFFFF, 14), (0x203FFFFF, 10), (0x203FFFFF, 14),
      (0x203FFFFF, 15)]))

theorem testRelay_tracks_epochs :
    ∃ chain, (testRelay.run crossingCalls).chain = some chain ∧
      chain.epochStart.height = 2016 ∧
      (∃ answer, ((testRelay.run crossingCalls).step recrossingCall).2 = .ok answer) ∧
      (testRelay.run crossingCalls).TracksEpochs chain ∧
      (∀ later {laterChain}, (testRelay.run (crossingCalls ++ later)).chain = some laterChain →
        ∀ earlier ∈ chain.starts, ∀ other ∈ laterChain.starts,
          other.height = earlier.height → other.header.target = earlier.header.target) ∧
      ∀ {ancestor headers answer},
        ((testRelay.run crossingCalls).step (.addHeaders ancestor headers)).2 = .ok answer →
          ∃ old new, BestChain.ofCalls (testRelay.accepted crossingCalls) = some old ∧
            BestChain.ofCalls
              (testRelay.accepted (crossingCalls ++ [.addHeaders ancestor headers])) = some new ∧
            new.Outgrows old ∧ ∀ measure, old.work measure ≤ new.work measure := by
  have created : create 7 Network.regtest.constants "governance" = .ok testRelay := rfl
  have replaces : ((testRelay.run crossingCalls).step recrossingCall).2 = .ok .done := by
    decide +kernel
  obtain ⟨chain, tracked, heights⟩ := Option.map_eq_some_iff.mp testRelay_crosses.2.2
  exact ⟨chain, tracked, (Prod.mk.inj heights).1, ⟨_, replaces⟩,
    run_tracks_epochs created crossingCalls tracked⟩

end WindowRelay

end HeaderRelay
