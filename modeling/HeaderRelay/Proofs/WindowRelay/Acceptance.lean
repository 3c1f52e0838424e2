import HeaderRelay.Proofs.Encoding
import HeaderRelay.Proofs.Target
import HeaderRelay.Proofs.WindowRelay.Epochs
import HeaderRelay.Proofs.WindowRelay.Verification

/-!
# Headers of proofs above the tip

A batch is judged by the target at each height.  The headers of a proof are judged
by two difficulties, whatever their heights, and difficulties are rounded down.  So
what a proof may have above the tip is not always what the window would record
there: directly on top of the tip it may have headers with the difficulty of the
previous epoch first, and everywhere another target with the same difficulty.

A proof that begins at the tip or below gets no such choice of epoch, for the block
at the tip has the difficulty of the current one.  And compact targets are so coarse
that a difficulty of at least `2 ^ 23` belongs to one target only.
-/

namespace HeaderRelay

variable {constants : Network.Constants} {header : Header}

/-- Whether a header has the difficulty of an epoch, which leaves it no other target
if it is large enough. -/
structure EpochStart.Matches (constants : Network.Constants) (start : EpochStart)
    (header : Header) : Prop where
  difficulty : header.difficulty constants = start.header.difficulty constants
  target : 2 ^ 23 ≤ (start.header.difficulty constants).toNat →
    (start.header.difficulty constants).toNat < 2 ^ 256 - 1 →
      header.target = start.header.target

theorem EpochStart.matches_of_difficulty {start : EpochStart}
    (same : header.difficulty constants = start.header.difficulty constants) :
    start.Matches constants header :=
  ⟨same, fun large bounded => Target.eq_of_difficulty_eq same large bounded⟩

namespace WindowRelay

variable {relay : WindowRelay} {chain : TrackedChain} {best : BestChain} {first : Header}
  {rest headers : List Header} {oldest tip start : Height} {capacity offset : Nat}

/-- No header is placed higher than directly above the tip. -/
theorem Exhibits.place_le (exhibits : relay.Exhibits capacity best oldest tip)
    (placed : relay.ring.IsPlaced) (found : relay.place? first rest = some start) :
    start.toNat ≤ tip.toNat + 1 := by
  obtain ⟨position, hash, owner, _, recorded, placedAt⟩ := place?_eq_some placed found
  obtain ⟨_, belowTip, _⟩ := (exhibits.recorded_iff owner hash).mp recorded
  have belowTip := UInt32.le_iff_toNat_le.mp belowTip
  omega

/-- Whether headers that begin at a height have another header with the same hash
in the place of the block at the tip. -/
def Disguises (chain : TrackedChain) (best : BestChain) (start : Height)
    (headers : List Header) : Prop :=
  ∃ other block, headers[chain.tip.toNat - start.toNat]? = some other ∧
    best.at? chain.tip.toNat = some block ∧ other ≠ block ∧ other.hash = block.hash

/-- How a header above the tip passes in a proof whose headers begin at a height. -/
inductive PassesAbove (constants : Network.Constants) (chain : TrackedChain)
    (best : BestChain) (start : Height) (headers : List Header) (offset : Nat)
    (header : Header) : Prop where
  | current (same : chain.epochStart.Matches constants header)
  /-- All headers up to there are like those of the previous epoch. -/
  | previous (same : chain.previousStart.Matches constants header)
      (before : ∀ earlier ∈ headers.take offset,
        chain.previousStart.Matches constants earlier)
      (joins : start.toNat = chain.tip.toNat + 1 ∨ Disguises chain best start headers)

theorem KeepsEpochs.target_tip (keeps : KeepsEpochs chain best) {block : Header}
    (isTip : best.at? chain.tip.toNat = some block) :
    block.target = chain.epochStart.header.target := by
  apply keeps.targets _ chain.epochStart_mem_starts _ isTip
  apply keeps.paced.governs_current _ (Nat.le_refl _)
  rw [keeps.paced.current]
  exact Nat.sub_le _ _

/-- Headers on top of the block at the tip are like those of the current epoch. -/
theorem KeepsEpochs.matches_of_tip (keeps : KeepsEpochs chain best)
    (splits : (chain.difficulties constants).Splits (headers.map (Header.difficulty constants)))
    {position : Nat} {block : Header} (stands : headers[position]? = some block)
    (isTip : best.at? chain.tip.toNat = some block) (listed : headers[offset]? = some header)
    (behind : position ≤ offset) : chain.epochStart.Matches constants header := by
  apply EpochStart.matches_of_difficulty
  have reached : (headers.map (Header.difficulty constants))[position]? =
      some (chain.difficulties constants).current := by
    rw [List.getElem?_map, stands, Option.map_some, Header.difficulty, keeps.target_tip isTip]
    rfl
  have later : ((headers.map (Header.difficulty constants)).drop position)[offset - position]? =
      some (header.difficulty constants) := by
    rw [List.getElem?_drop, Nat.add_sub_cancel' behind, List.getElem?_map, listed,
      Option.map_some]
  exact splits.after reached _ (List.mem_of_getElem? later)

/-- Headers that are placed on the chain begin directly above the tip or have the
block at the tip in its place, if no other one with its hash. -/
theorem joins_tip (near : start.toNat ≤ chain.tip.toNat + 1)
    (onTip : start.toNat ≤ chain.tip.toNat →
      ∀ other, headers[chain.tip.toNat - start.toNat]? = some other →
        ∃ block, best.at? chain.tip.toNat = some block ∧ block.hash = other.hash)
    (inside : chain.tip.toNat - start.toNat < headers.length) :
    (start.toNat = chain.tip.toNat + 1 ∨ Disguises chain best start headers) ∨
      ∃ block, headers[chain.tip.toNat - start.toNat]? = some block ∧
        best.at? chain.tip.toNat = some block := by
  rcases Nat.lt_or_ge chain.tip.toNat start.toNat with directly | reaches
  · exact .inl (.inl (Nat.le_antisymm near directly))
  · have stands := List.getElem?_eq_getElem inside
    obtain ⟨block, isTip, sameHash⟩ := onTip reaches _ stands
    by_cases same : headers[chain.tip.toNat - start.toNat] = block
    · exact .inr ⟨block, same ▸ stands, isTip⟩
    · exact .inl (.inr ⟨_, block, stands, isTip, same, sameHash.symm⟩)

theorem KeepsEpochs.passesAbove (keeps : KeepsEpochs chain best)
    (splits : (chain.difficulties constants).Splits (headers.map (Header.difficulty constants)))
    (near : start.toNat ≤ chain.tip.toNat + 1)
    (onTip : start.toNat ≤ chain.tip.toNat →
      ∀ other, headers[chain.tip.toNat - start.toNat]? = some other →
        ∃ block, best.at? chain.tip.toNat = some block ∧ block.hash = other.hash)
    (listed : headers[offset]? = some header)
    (above : chain.tip.toNat < start.toNat + offset) :
    PassesAbove constants chain best start headers offset header := by
  obtain ⟨inside, _⟩ := List.getElem?_eq_some_iff.mp listed
  rcases joins_tip near onTip (by omega) with joins | ⟨block, stands, isTip⟩
  · have atOffset : (headers.map (Header.difficulty constants))[offset]? =
        some (header.difficulty constants) := by
      rw [List.getElem?_map, listed, Option.map_some]
    rcases splits.before atOffset with new | ⟨old, before⟩
    · exact .current (EpochStart.matches_of_difficulty new)
    · rw [← List.map_take, List.forall_mem_map] at before
      refine .previous (EpochStart.matches_of_difficulty old) ?_ joins
      intro earlier member
      exact EpochStart.matches_of_difficulty (before earlier member)
  · exact .current (keeps.matches_of_tip splits stands isTip listed (by omega))

/-- Every header that an accepted proof has above the tip is like those of the
current epoch, unless proofs are not held to difficulties at all because both are
one.  The exception is a proof that joins directly above the tip and has headers
like those of the previous epoch up to there. -/
theorem run_admits_above_tip {governance : String} {initial : WindowRelay}
    (created : create capacity constants governance = .ok initial) (calls : List Call)
    {proof : Proof} {config : VerifierConfig} {validated : ValidatedChain}
    (accepts : proof.verify (initial.run calls).anchor config = .ok validated) :
    ∃ chain best first rest start, (initial.run calls).chain = some chain ∧
      BestChain.ofCalls (initial.accepted calls) = some best ∧
      proof.chain = .ok (first :: rest) ∧
      (initial.run calls).place? first rest = some start ∧
      ((chain.difficulties (initial.run calls).constants).areMinimal = true ∨
        ∀ offset header, (first :: rest)[offset]? = some header →
          chain.tip.toNat < start.toNat + offset →
            PassesAbove (initial.run calls).constants chain best start (first :: rest) offset
              header) := by
  have mirrors := mirrors_run created calls
  have kept := keeps_run created established_keepsEpochs preserved_keepsEpochs calls
  generalize initial.run calls = relay at *
  obtain ⟨first, rest, epochs, required, _, anchored, known, valid, _⟩ :=
    Proof.verify_eq_ok_iff.mp accepts
  obtain ⟨_, decoded, _⟩ := Proof.requiredChain_eq_ok_iff.mp required
  obtain ⟨chain, start, tracked, found, passed⟩ := checkAnchored_eq_ok_iff.mp anchored
  obtain ⟨_, same, rfl⟩ := epochDifficulties_eq_ok_iff.mp known
  cases tracked.symm.trans same
  obtain ⟨_, _, admitted, _⟩ := ValidatedChain.ofHeaders_eq_ok_iff.mp valid
  obtain ⟨best, oldest, tip, isBest, exhibits⟩ := mirrors.exhibits (by simp [tracked])
  obtain ⟨_, same, rfl⟩ := height_eq_ok_iff.mp exhibits.height
  cases tracked.symm.trans same
  refine ⟨chain, best, first, rest, start, tracked, isBest, decoded, found, ?_⟩
  apply admitted.imp_right
  intro splits offset header listed above
  apply (kept.holds tracked isBest).passesAbove splits (exhibits.place_le mirrors.placed found) _
    listed above
  intro reaches other stands
  have recorded := passed _ other stands (by omega)
  rw [Nat.add_sub_cancel' reaches, UInt32.ofNat_toNat] at recorded
  exact ((exhibits.recorded_iff _ _).mp recorded).2.2

/-! ## Targets that the window would not record -/

/-- Whether an accepted proof has a header at an offset that is above the tip and in
the current epoch, but does not carry its target. -/
def AdmitsOtherTarget (relay : WindowRelay) (config : VerifierConfig) (proof : Proof)
    (offset : Nat) : Prop :=
  ∃ chain validated first rest start header, relay.chain = some chain ∧
    proof.verify relay.anchor config = .ok validated ∧ proof.chain = .ok (first :: rest) ∧
    relay.place? first rest = some start ∧ (first :: rest)[offset]? = some header ∧
    chain.tip.toNat < start.toNat + offset ∧
    start.toNat + offset < chain.epochStart.height.toNat + 2016 ∧
    header.target ≠ chain.epochStart.header.target

theorem admitsOtherTarget_of_epoch {config : VerifierConfig} {validated : ValidatedChain}
    {opened : Height} {bits : UInt32}
    (epoch : relay.chain.map (fun chain =>
      (chain.tip, chain.epochStart.height, chain.epochStart.header.bits)) =
        some (tip, opened, bits))
    (accepts : (Proof.sole (first :: rest)).verify relay.anchor config = .ok validated)
    (placed : relay.place? first rest = some start)
    (listed : (first :: rest)[offset]? = some header) (above : tip.toNat < start.toNat + offset)
    (inEpoch : start.toNat + offset < opened.toNat + 2016)
    (different : header.target ≠ Target.ofBits bits) :
    AdmitsOtherTarget relay config (.sole (first :: rest)) offset := by
  obtain ⟨chain, tracked, same⟩ := Option.map_eq_some_iff.mp epoch
  obtain ⟨rfl, rfl, rfl⟩ := same
  exact ⟨chain, validated, first, rest, start, header, tracked, accepts,
    Header.decodeChain_encodeChain _, placed, listed, above, inEpoch, different⟩

/-- A header on top of the chain across the boundary, with the target of the epoch
before. -/
def laggingHeader : Header :=
  ⟨1, (crossingBlocks.getLastD (.easy .zero 0)).hash, .zero, 1, 0x207FFFFF, 0⟩

/-- One on top of it with the difficulty of the current epoch, but a target that is
slightly less. -/
def driftingHeader : Header :=
  ⟨1, laggingHeader.hash, .zero, 1, 0x203FFFFE, 2⟩

theorem testRelay_accepts_laggingHeader :
    (testRelay.run crossingCalls).chain.map (fun chain =>
        (chain.tip, chain.epochStart.height, chain.epochStart.header.bits)) =
          some (2019, 2016, 0x203FFFFF) ∧
      (testRelay.run crossingCalls).place? laggingHeader [driftingHeader] = some 2020 ∧
      ((Proof.sole [laggingHeader, driftingHeader]).verify
        (testRelay.run crossingCalls).anchor ⟨2, true⟩).map ValidatedChain.accumulated =
          .ok 3 := by
  decide +kernel

theorem testRelay_admits_above_tip :
    (∃ validated, (Proof.sole [laggingHeader, driftingHeader]).verify
        (testRelay.run crossingCalls).anchor ⟨2, true⟩ = .ok validated) ∧
      ∃ chain best first rest start, (testRelay.run crossingCalls).chain = some chain ∧
        BestChain.ofCalls (testRelay.accepted crossingCalls) = some best ∧
        (Proof.sole [laggingHeader, driftingHeader]).chain = .ok (first :: rest) ∧
        (testRelay.run crossingCalls).place? first rest = some start ∧
        ((chain.difficulties (testRelay.run crossingCalls).constants).areMinimal = true ∨
          ∀ offset header, (first :: rest)[offset]? = some header →
            chain.tip.toNat < start.toNat + offset →
              PassesAbove (testRelay.run crossingCalls).constants chain best start
                (first :: rest) offset header) := by
  have created : create 7 Network.regtest.constants "governance" = .ok testRelay := rfl
  obtain ⟨_, _, accepts⟩ := testRelay_accepts_laggingHeader
  obtain ⟨validated, accepts, _⟩ := Checks.map_eq_ok_iff.mp accepts
  exact ⟨⟨validated, accepts⟩, run_admits_above_tip created crossingCalls accepts⟩

/-- A header of difficulty zero, on top of the genesis of the test relay. -/
def effortlessHeader : Header :=
  ⟨1, (Header.easy .zero 0).hash, .zero, 1, 0x2100FFFF, 0⟩

/-- The window would record none of these headers: one is like those of the epoch
before, one has the difficulty of the current epoch only, and one has no difficulty
where both epochs have difficulty one. -/
theorem testRelay_admits_other_targets :
    AdmitsOtherTarget (testRelay.run crossingCalls) ⟨2, true⟩
        (.sole [laggingHeader, driftingHeader]) 0 ∧
      AdmitsOtherTarget (testRelay.run crossingCalls) ⟨2, true⟩
        (.sole [laggingHeader, driftingHeader]) 1 ∧
      AdmitsOtherTarget (testRelay.run (testCalls.take 2)) ⟨1, true⟩
        (.sole [effortlessHeader]) 0 := by
  obtain ⟨epoch, placed, accepts⟩ := testRelay_accepts_laggingHeader
  obtain ⟨_, accepts, _⟩ := Checks.map_eq_ok_iff.mp accepts
  have effortless : (testRelay.run (testCalls.take 2)).chain.map (fun chain =>
        (chain.tip, chain.epochStart.height, chain.epochStart.header.bits)) =
          some (1, 0, 0x207FFFFF) ∧
      (testRelay.run (testCalls.take 2)).place? effortlessHeader [] = some 2 ∧
      ((Proof.sole [effortlessHeader]).verify
        (testRelay.run (testCalls.take 2)).anchor ⟨1, true⟩).map ValidatedChain.accumulated =
          .ok 0 := by
    decide +kernel
  obtain ⟨easyEpoch, easyPlaced, easyAccepts⟩ := effortless
  obtain ⟨_, easyAccepts, _⟩ := Checks.map_eq_ok_iff.mp easyAccepts
  refine ⟨?_, ?_, ?_⟩
  · exact admitsOtherTarget_of_epoch epoch accepts placed rfl (by decide) (by decide) (by decide)
  · exact admitsOtherTarget_of_epoch epoch accepts placed rfl (by decide) (by decide) (by decide)
  · exact admitsOtherTarget_of_epoch easyEpoch easyAccepts easyPlaced rfl (by decide) (by decide)
      (by decide)

end WindowRelay

end HeaderRelay
