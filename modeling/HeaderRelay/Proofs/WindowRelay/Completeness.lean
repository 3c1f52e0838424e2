import HeaderRelay.Proofs.Encoding
import HeaderRelay.Proofs.WindowRelay.Epochs
import HeaderRelay.Proofs.WindowRelay.Verification
import HeaderRelay.Proofs.WindowRelay.Work

/-!
# What was recorded can be proven

The blocks that a window still records were checked when they were added, each with
the batch that it came in.  A validation or a proof looks at other stretches of the
chain, which may span several batches, a reorganization or a boundary.  It finds
them in order nevertheless: all blocks are linked and have valid work, and those of
the tracked epochs have the targets of their epochs.
-/

namespace HeaderRelay

namespace BestChain

variable {best : BestChain} {number other : Nat} {block genesis : Header}
  {headers : List Header}

/-- Whether headers are the blocks from a height on. -/
def Carries (best : BestChain) (number : Nat) (headers : List Header) : Prop :=
  ∀ {offset header}, headers[offset]? = some header → best.at? (number + offset) = some header

/-- Whether the hashes of all blocks and of the parent of the first one differ. -/
def HasDistinctHashes (best : BestChain) : Prop :=
  (best.blocks.head?.toList.map Header.previous ++ best.blocks.map Header.hash).Nodup

/-- Blocks with different hashes are told apart by them. -/
theorem number_eq_of_nodup (unique : (best.blocks.map Header.hash).Nodup) {otherBlock : Header}
    (found : best.at? number = some block) (otherFound : best.at? other = some otherBlock)
    (same : otherBlock.hash = block.hash) : other = number := by
  obtain ⟨started, listed⟩ := at?_eq_some_iff.mp found
  obtain ⟨otherStarted, otherListed⟩ := at?_eq_some_iff.mp otherFound
  have inside : other - best.genesisHeight.toNat < (best.blocks.map Header.hash).length := by
    rw [List.length_map]
    exact (List.getElem?_eq_some_iff.mp otherListed).1
  have position : other - best.genesisHeight.toNat = number - best.genesisHeight.toNat := by
    rw [← List.getElem?_inj inside unique, List.getElem?_map, List.getElem?_map, listed,
      otherListed, Option.map_some, Option.map_some, same]
  omega

theorem HasDistinctHashes.number_eq (distinct : best.HasDistinctHashes) {otherBlock : Header}
    (found : best.at? number = some block) (otherFound : best.at? other = some otherBlock)
    (same : otherBlock.hash = block.hash) : other = number :=
  number_eq_of_nodup (List.nodup_append.mp distinct).2.1 found otherFound same

theorem HasDistinctHashes.ne_parent (distinct : best.HasDistinctHashes)
    (isGenesis : best.at? best.genesisHeight.toNat = some genesis)
    (found : best.at? number = some block) : block.hash ≠ genesis.previous := by
  have isFirst : best.blocks.head? = some genesis := by
    rw [List.head?_eq_getElem?, ← (at?_eq_some_iff.mp isGenesis).2, Nat.sub_self]
  intro same
  have apart := (List.nodup_append.mp distinct).2.2
  rw [isFirst] at apart
  exact apart genesis.previous (by simp) block.hash
    (List.mem_map_of_mem (mem_of_at? found)) same.symm

namespace Carries

theorem started (carries : best.Carries number headers) (nonempty : headers ≠ []) :
    best.genesisHeight.toNat ≤ number := by
  have first := carries (List.getElem?_eq_getElem (List.length_pos_iff.mpr nonempty))
  exact (at?_eq_some_iff.mp first).1

theorem add_length_le (carries : best.Carries number headers) (nonempty : headers ≠ []) :
    number + headers.length ≤ best.above := by
  have positive := List.length_pos_iff.mpr nonempty
  have last := carries (List.getElem?_eq_getElem (Nat.sub_lt positive Nat.one_pos))
  have := lt_above_of_at? last
  omega

theorem linked (carries : best.Carries number headers)
    (linked : ∀ {number lower upper}, best.at? number = some lower →
      best.at? (number + 1) = some upper → upper.previous = lower.hash) :
    Header.Linked headers := by
  rw [Header.Linked, List.isChain_iff_getElem]
  intro position inside
  exact linked (carries (List.getElem?_eq_getElem _)) (carries (List.getElem?_eq_getElem inside))

/-- Every stretch of the blocks is carried. -/
theorem of_slice (best : BestChain) (skipped count : Nat) :
    best.Carries (best.genesisHeight.toNat + skipped)
      ((best.blocks.drop skipped).take count) := by
  intro offset header listed
  rw [List.getElem?_take] at listed
  split at listed
  next inside =>
    rw [List.getElem?_drop] at listed
    refine at?_eq_some_iff.mpr ⟨by omega, ?_⟩
    rwa [Nat.add_assoc, Nat.add_sub_cancel_left]
  next => cases listed

theorem mem (carries : best.Carries number headers) :
    ∀ header ∈ headers, header ∈ best.blocks := by
  intro header member
  obtain ⟨offset, listed⟩ := List.getElem?_of_mem member
  exact mem_of_at? (carries listed)

end Carries

end BestChain

namespace Ring

variable {ring : Ring} {height : Height} {hash : Hash}

/-- A hash that is recorded is found. -/
theorem exists_heightOf? (known : ring.recorded? height = some hash) :
    ∃ owner, ring.heightOf? hash = some owner := by
  unfold recorded? at known
  split at known
  next owner stored found =>
    split at known
    next same =>
      cases known
      rw [← Option.isSome_iff_exists, heightOf?, Array.findSome?_isSome_iff]
      exact ⟨_, Array.mem_of_getElem? found, by simp⟩
    next => cases known
  next => cases known

end Ring

namespace WindowRelay

variable {relay : WindowRelay} {chain : TrackedChain} {best : BestChain}
  {constants : Network.Constants} {first : Header} {rest headers : List Header}
  {height start oldest tip : Height} {number capacity : Nat} {past : List Call}

/-! ## Targets -/

/-- The difficulties of a stretch of blocks from the tracked epochs pass. -/
theorem KeepsEpochs.splits (keeps : KeepsEpochs chain best)
    (carries : best.Carries number headers) (ends : chain.tip.toNat + 1 = best.above)
    (reached : chain.previousStart.height.toNat ≤ number) :
    (chain.difficulties constants).Splits (headers.map (Header.difficulty constants)) := by
  -- The headers below the current epoch come first.
  obtain ⟨count, counted⟩ : ∃ count, chain.epochStart.height.toNat - number = count := ⟨_, rfl⟩
  refine ⟨(headers.take count).map (Header.difficulty constants),
    (headers.drop count).map (Header.difficulty constants), ?_, ?_, ?_⟩
  · rw [← List.map_append, List.take_append_drop]
  · rw [List.forall_mem_map]
    intro header member
    obtain ⟨offset, listed⟩ := List.getElem?_of_mem member
    rw [List.getElem?_take] at listed
    split at listed
    next early =>
      have governs : chain.previousStart.Governs (number + offset) :=
        keeps.paced.governs_previous (by omega) (by omega)
      rw [Header.difficulty,
        keeps.targets _ chain.previousStart_mem_starts governs (carries listed)]
      rfl
    next => cases listed
  · rw [List.forall_mem_map]
    intro header member
    obtain ⟨offset, listed⟩ := List.getElem?_of_mem member
    rw [List.getElem?_drop] at listed
    have found := carries listed
    have below := BestChain.lt_above_of_at? found
    have governs : chain.epochStart.Governs (number + (count + offset)) :=
      keeps.paced.governs_current (by omega) (by omega)
    rw [Header.difficulty, keeps.targets _ chain.epochStart_mem_starts governs found]
    rfl

/-- A stretch that leads over a boundary below the tip meets the current epoch start
there. -/
theorem KeepsEpochs.crosses (keeps : KeepsEpochs chain best) {base : EpochStart}
    (carries : best.Carries start.toNat headers) (ends : chain.tip.toNat + 1 = best.above)
    (member : base ∈ chain.starts) (governs : base.Governs start.toNat)
    (leads : Epoch.nextStart start < start.toNat + headers.length) :
    Follows chain.epochStart base start headers (some chain.epochStart) := by
  have next := keeps.paced.nextStart_eq member governs
  have current := keeps.paced.current
  obtain ⟨since, inEpoch⟩ := governs
  obtain ⟨opening, stands⟩ :
      ∃ opening, headers[Epoch.nextStart start - start.toNat]? = some opening :=
    ⟨_, List.getElem?_eq_getElem (by omega)⟩
  have found := carries stands
  rw [Nat.add_sub_cancel' (by omega)] at found
  have below := BestChain.lt_above_of_at? found
  have place : chain.epochStart.height.toNat = Epoch.nextStart start := by
    rcases TrackedChain.mem_starts.mp member with rfl | old
    · omega
    · rw [next, keeps.paced.previous base old]
  obtain rfl : chain.epochStart.header = opening := by
    obtain ⟨started, _⟩ := BestChain.at?_eq_some_iff.mp found
    rw [← place] at found started
    exact Option.some.inj
      ((keeps.opened _ chain.epochStart_mem_starts started).symm.trans found)
  obtain ⟨before, after, rfl, counted⟩ := Header.exists_append_of_getElem? stands
  refine .crosses place (by omega) ?_ ?_ ?_
  · rw [mayOpenEpoch, if_pos rfl]
    exact decide_eq_true rfl
  · intro header listed
    obtain ⟨offset, listed⟩ := List.getElem?_of_mem listed
    obtain ⟨short, _⟩ := List.getElem?_eq_some_iff.mp listed
    rw [← List.getElem?_append_left short] at listed
    exact keeps.targets base member ⟨by omega, by omega⟩ (carries listed)
  · intro header listed
    obtain ⟨offset, listed⟩ := List.getElem?_of_mem listed
    have behind : (before ++ chain.epochStart.header :: after)[before.length + (offset + 1)]? =
        some header := by
      rwa [List.getElem?_append_right (Nat.le_add_right _ _), Nat.add_sub_cancel_left,
        List.getElem?_cons_succ]
    have found := carries behind
    have below := BestChain.lt_above_of_at? found
    apply keeps.targets _ chain.epochStart_mem_starts _ found
    exact keeps.paced.governs_current (by omega) (by omega)

/-- A stretch of blocks from the tracked epochs carries targets that it may. -/
theorem KeepsEpochs.follows (keeps : KeepsEpochs chain best)
    (carries : best.Carries start.toNat headers) (nonempty : headers ≠ [])
    (ends : chain.tip.toNat + 1 = best.above)
    (reached : chain.previousStart.height.toNat ≤ start.toNat) :
    ∃ base crossed, startFor chain start = .ok base ∧
      Follows chain.epochStart base start headers crossed := by
  have whole := carries.add_length_le nonempty
  have positive := List.length_pos_iff.mpr nonempty
  obtain ⟨base, member, governs⟩ := keeps.paced.exists_governs reached (by omega)
  have begins := (keeps.paced.startFor_eq_ok_iff (by omega)).mpr ⟨member, governs⟩
  rcases Nat.lt_or_ge (Epoch.nextStart start) (start.toNat + headers.length) with leads | inside
  · exact ⟨base, _, begins, keeps.crosses carries ends member governs leads⟩
  · refine ⟨base, none, begins, .within inside ?_⟩
    have next := keeps.paced.nextStart_eq member governs
    obtain ⟨since, inEpoch⟩ := governs
    intro header listed
    obtain ⟨offset, listed⟩ := List.getElem?_of_mem listed
    obtain ⟨short, _⟩ := List.getElem?_eq_some_iff.mp listed
    exact keeps.targets base member ⟨by omega, by omega⟩ (carries listed)

/-! ## Places -/

/-- A hash that is recorded once tells the height. -/
theorem placeBy?_of_unique (placed : relay.ring.IsPlaced) {owner : Height} {hash : Hash}
    (recorded : relay.ring.recorded? owner = some hash)
    (unique : ∀ other, relay.ring.recorded? other = some hash → other = owner) {position : Nat}
    (aligned : start.toNat + position = owner.toNat + 1) (inRange : owner.toNat + 1 < 2 ^ 32) :
    relay.placeBy? position hash = some start := by
  obtain ⟨other, found⟩ := Ring.exists_heightOf? recorded
  obtain rfl := unique other (placed.recorded?_of_heightOf? found)
  obtain ⟨above, next⟩ : ∃ above : Height, above.toNat = other.toNat + 1 :=
    ⟨_, UInt32.toNat_ofNat_of_lt' inRange⟩
  have up : other.up? 1 = some above := Height.up?_eq_some_iff.mpr next
  have down : above.down? position = some start :=
    Height.down?_eq_some_iff.mpr (next.trans aligned.symm)
  simp [placeBy?, found, up, down]

/-- A first header that is recorded at one height, and whose parent is recorded
directly below if at all, is placed there. -/
theorem place?_eq_some_of_unique (placed : relay.ring.IsPlaced)
    (roomy : start.toNat + 1 < 2 ^ 32) (recorded : relay.isRecorded start first.hash = true)
    (unique : ∀ owner, relay.isRecorded owner first.hash = true → owner = start)
    (below : ∀ owner, relay.isRecorded owner first.previous = true →
      owner.toNat + 1 = start.toNat) : relay.place? first rest = some start := by
  cases parent : relay.placeBy? 0 first.previous with
  | some other =>
      obtain ⟨owner, known, aligned, _⟩ := exists_owner_of_placeBy? placed parent
      have next := below owner (isRecorded_iff.mpr known)
      obtain rfl : other = start := by
        rw [← UInt32.toNat_inj]
        omega
      exact place?_of_parent parent
  | none =>
      refine place?_of_first parent
        (placeBy?_of_unique placed (isRecorded_iff.mp recorded) ?_ rfl roomy)
      intro owner known
      exact unique owner (isRecorded_iff.mpr known)

/-- Blocks of the window are placed where they stand. -/
theorem Exhibits.place?_of_carries (exhibits : relay.Exhibits capacity best oldest tip)
    (placed : relay.ring.IsPlaced) (distinct : best.HasDistinctHashes)
    (carries : best.Carries start.toNat (first :: rest)) (several : rest ≠ [])
    (inRange : oldest ≤ start) : relay.place? first rest = some start := by
  have leads : (first :: rest)[0]? = some first := rfl
  have found : best.at? start.toNat = some first := carries leads
  have whole := carries.add_length_le (List.cons_ne_nil _ _)
  have positive := List.length_pos_iff.mpr several
  have ends := exhibits.tip_toNat
  have limit := tip.toNat_lt
  rw [BestChain.above, ← ends, List.length_cons] at whole
  have isHash {owner : Height} {hash : Hash} (recorded : relay.isRecorded owner hash = true) :
      ∃ block, best.at? owner.toNat = some block ∧ block.hash = hash :=
    ((exhibits.recorded_iff owner hash).mp recorded).2.2
  apply place?_eq_some_of_unique placed (by omega)
  · exact (exhibits.recorded_iff _ _).mpr
      ⟨inRange, UInt32.le_iff_toNat_le.mpr (by omega), first, found, rfl⟩
  · intro owner recorded
    obtain ⟨block, stands, same⟩ := isHash recorded
    exact UInt32.toNat_inj.mp (distinct.number_eq found stands same)
  · intro owner recorded
    obtain ⟨block, stands, same⟩ := isHash recorded
    obtain ⟨started, _⟩ := BestChain.at?_eq_some_iff.mp found
    rcases Nat.eq_or_lt_of_le started with isGenesis | above
    · rw [← isGenesis] at found
      exact absurd same (distinct.ne_parent found stands)
    · have next : start.toNat = start.toNat - 1 + 1 := by omega
      obtain ⟨lower, atLower⟩ : ∃ lower, best.at? (start.toNat - 1) = some lower :=
        BestChain.exists_at? (by omega) (by rw [BestChain.above]; omega)
      rw [next] at found
      rw [exhibits.linked atLower found] at same
      rw [distinct.number_eq atLower stands same, ← next]

/-! ## Runs -/

/-- Whether the blocks that a window records, from the tracked epochs on, can be
proven. -/
structure ProvesRecorded (relay : WindowRelay) (chain : TrackedChain) (best : BestChain)
    (oldest : Height) : Prop where
  /-- Six successive blocks are valid around the fourth. -/
  validates : ∀ {first height : Height} {headers : List Header},
    best.Carries first.toNat headers → headers.length = 6 → oldest ≤ first →
      chain.previousStart.height ≤ first → height.toNat = first.toNat + 3 →
        relay.validate height (Header.encodeChain headers) = .ok true
  /-- Two successive blocks or more prove whatever is in the first of them. -/
  accepts : ∀ {start : Height} {first : Header} {rest : List Header},
    best.Carries start.toNat (first :: rest) → rest ≠ [] → oldest ≤ start →
      chain.previousStart.height ≤ start →
        ∀ {txid : Hash} {siblings : List Hash} {index : UInt32},
          Merkle.verify txid first.merkleRoot siblings index.toUInt64 = .ok () →
            ∀ {config : VerifierConfig},
              config.requiredConfirmations.toNat = (first :: rest).length →
                config.enforceAccumulated = false →
                  Proof.verify relay.anchor config ⟨txid, Proof.encodeBranch siblings, index,
                    Header.encodeChain (first :: rest)⟩ =
                      .ok (ValidatedChain.summary relay.constants first rest)

theorem KeepsWork.of_carries (keeps : KeepsWork past best)
    (identified : Header.Identified (submitted past)) (carries : best.Carries number headers)
    (several : 2 ≤ headers.length) : ∀ header ∈ headers, header.hasValidWork = true := by
  have nonempty : headers ≠ [] := List.ne_nil_of_length_pos (by omega)
  have started := carries.started nonempty
  have whole := carries.add_length_le nonempty
  rw [BestChain.above] at whole
  intro header member
  exact keeps.works identified (by omega) header (carries.mem header member)

section

variable (exhibits : relay.Exhibits capacity best oldest chain.tip)
  (tracked : relay.chain = some chain) (keeps : KeepsEpochs chain best)
  (works : KeepsWork past best) (identified : Header.Identified (submitted past))
  (inRange : oldest ≤ start) (reached : chain.previousStart.height ≤ start)

include exhibits tracked keeps works identified inRange reached

theorem validate_of_carries (carries : best.Carries start.toNat headers)
    (six : headers.length = 6) (fourth : height.toNat = start.toNat + 3) :
    relay.validate height (Header.encodeChain headers) = .ok true := by
  have nonempty : headers ≠ [] := List.ne_nil_of_length_pos (by omega)
  have whole := carries.add_length_le nonempty
  have ends := exhibits.tip_toNat
  have limit := chain.tip.toNat_lt
  rw [BestChain.above, ← ends] at whole
  rw [UInt32.le_iff_toNat_le] at inRange reached
  obtain ⟨anchor, stands⟩ : ∃ anchor, headers[3]? = some anchor :=
    ⟨_, List.getElem?_eq_getElem (by omega)⟩
  obtain ⟨base, crossed, begins, follows⟩ := keeps.follows carries nonempty ends reached
  refine validate_eq_ok_true_iff.mpr ⟨chain, headers, anchor, start, crossed, tracked,
    Header.decodeChain_encodeChain headers, six, stands, Height.down?_eq_some_iff.mpr fourth,
    ?_, ?_⟩
  · rw [← isRecorded_iff, exhibits.recorded_iff, UInt32.le_iff_toNat_le, UInt32.le_iff_toNat_le,
      fourth]
    exact ⟨by omega, by omega, anchor, carries stands, rfl⟩
  · have valid := works.of_carries identified carries (by omega)
    obtain ⟨first, rest, rfl⟩ := List.exists_cons_of_ne_nil nonempty
    rw [checkHeaders_eq_ok_iff_follows (by omega) (by omega)]
    exact ⟨base, begins, follows, carries.linked exhibits.linked, valid⟩

theorem verify_of_carries (placed : relay.ring.IsPlaced) (distinct : best.HasDistinctHashes)
    (carries : best.Carries start.toNat (first :: rest)) (several : rest ≠ []) {proof : Proof}
    {config : VerifierConfig} (required : proof.requiredChain config = .ok (first, rest))
    (included : proof.checkInclusion first = .ok ())
    (unenforced : config.enforceAccumulated = false) :
    proof.verify relay.anchor config =
      .ok (ValidatedChain.summary relay.constants first rest) := by
  have positive := List.length_pos_iff.mpr several
  refine Proof.verify_eq_ok_iff.mpr ⟨first, rest, chain.difficulties relay.constants, required,
    included, ?_, epochDifficulties_eq_ok_iff.mpr ⟨chain, tracked, rfl⟩, ?_, ?_⟩
  · refine checkAnchored_eq_ok_iff.mpr ⟨chain, start, tracked,
      exhibits.place?_of_carries placed distinct carries several inRange, ?_⟩
    intro offset header listed below
    have limit := chain.tip.toNat_lt
    have isHeight : (UInt32.ofNat (start.toNat + offset)).toNat = start.toNat + offset :=
      UInt32.toNat_ofNat_of_lt' (by simp only [UInt32.size]; omega)
    rw [UInt32.le_iff_toNat_le] at inRange
    rw [exhibits.recorded_iff, UInt32.le_iff_toNat_le, UInt32.le_iff_toNat_le, isHeight]
    exact ⟨by omega, below, header, carries listed, rfl⟩
  · refine ValidatedChain.ofHeaders_eq_ok_iff.mpr ⟨carries.linked exhibits.linked,
      works.of_carries identified carries (by rw [List.length_cons]; omega), .inr ?_, rfl⟩
    exact keeps.splits carries exhibits.tip_toNat (UInt32.le_iff_toNat_le.mp reached)
  · rw [unenforced]
    exact nofun

end

/-- In every run the blocks that are still recorded can be proven, from the oldest
tracked epoch on, unless different headers were submitted under one hash. -/
theorem run_proves_recorded {governance : String} {initial : WindowRelay}
    (created : create capacity constants governance = .ok initial) (calls : List Call)
    (tracked : (initial.run calls).chain = some chain)
    (identified : Header.Identified (submitted (initial.accepted calls))) :
    ∃ best oldest tip, BestChain.ofCalls (initial.accepted calls) = some best ∧
      (initial.run calls).range = .ok (oldest, tip) ∧
      (best.HasDistinctHashes → (initial.run calls).ProvesRecorded chain best oldest) := by
  have mirrors := mirrors_run created calls
  have keepsEpochs := keeps_run created established_keepsEpochs preserved_keepsEpochs calls
  have keepsWork := keeps_run created established_keepsWork preserved_keepsWork calls
  obtain ⟨best, oldest, tip, isBest, exhibits⟩ := mirrors.exhibits (by simp [tracked])
  obtain ⟨_, same, rfl⟩ := height_eq_ok_iff.mp exhibits.height
  cases tracked.symm.trans same
  have epochs := keepsEpochs.holds tracked isBest
  have works := keepsWork.holds tracked isBest
  refine ⟨best, oldest, chain.tip, isBest, exhibits.range, ?_⟩
  intro distinct
  constructor
  · intro first height headers carries six inRange reached fourth
    exact validate_of_carries exhibits tracked epochs works identified inRange reached carries six
      fourth
  · intro start first rest carries several inRange reached txid siblings index included config
      counted unenforced
    apply verify_of_carries exhibits tracked epochs works identified inRange reached
      mirrors.placed distinct carries several _ _ unenforced
    · refine Proof.requiredChain_eq_ok_iff.mpr
        ⟨?_, Header.decodeChain_encodeChain (first :: rest), counted.symm⟩
      intro none
      rw [none, List.length_cons] at counted
      exact Nat.succ_ne_zero _ counted.symm
    · exact Proof.checkInclusion_eq_ok_iff.mpr
        ⟨siblings, Proof.decodeBranch_encodeBranch siblings, included⟩

theorem hasDistinctHashes_crossingBlocks :
    BestChain.HasDistinctHashes ⟨2013, crossingBlocks⟩ := by
  change (Hash.zero :: crossingBlocks.map Header.hash).Nodup
  apply List.Nodup.of_map (fun hash => hash.bytes.headD 0)
  have firstBytes : (Hash.zero :: crossingBlocks.map Header.hash).map
      (fun hash => hash.bytes.headD 0) = [0, 192, 77, 181, 114, 215, 128, 126] := by
    decide +kernel
  rw [firstBytes]
  decide

theorem identified_crossingCalls : Header.Identified (submitted crossingCalls) := by
  have listed : ∀ header ∈ submitted crossingCalls, header ∈ crossingBlocks := by
    simp [submitted, crossingCalls, Call.headers, Except.toOption, crossingBlocks, tower]
  have distinct := List.nodup_cons.mp hasDistinctHashes_crossingBlocks
  intro left leftMember right rightMember same
  exact List.inj_on_of_nodup_map distinct.2 (listed left leftMember) (listed right rightMember)
    same

/-- The blocks on both sides of a boundary, genesis included. -/
theorem testRelay_proves_recorded :
    ∃ chain best oldest tip, (testRelay.run crossingCalls).chain = some chain ∧
      BestChain.ofCalls (testRelay.accepted crossingCalls) = some best ∧
      (testRelay.run crossingCalls).range = .ok (oldest, tip) ∧
      (testRelay.run crossingCalls).ProvesRecorded chain best oldest ∧
      (testRelay.run crossingCalls).validate 2016
        (Header.encodeChain (crossingBlocks.take 6)) = .ok true ∧
      ∃ validated, (Proof.sole (crossingBlocks.take 6)).verify
        (testRelay.run crossingCalls).anchor ⟨6, false⟩ = .ok validated := by
  have created : create 7 Network.regtest.constants "governance" = .ok testRelay := rfl
  obtain ⟨accepted, range, heights⟩ := testRelay_crosses
  obtain ⟨chain, tracked, heights⟩ := Option.map_eq_some_iff.mp heights
  have reached : chain.previousStart.height ≤ 2013 := by
    rw [(Prod.mk.inj heights).2]
    decide
  have identified : Header.Identified (submitted (testRelay.accepted crossingCalls)) := by
    rw [accepted]
    exact identified_crossingCalls
  obtain ⟨best, oldest, tip, isBest, sameRange, proves⟩ :=
    run_proves_recorded created crossingCalls tracked identified
  cases range.symm.trans sameRange
  have same : some best = some ⟨2013, crossingBlocks⟩ := by
    rw [← isBest, accepted]
    exact ofCalls_genesis_addHeaders _ _ _ _
  cases same
  have proves := proves hasDistinctHashes_crossingBlocks
  have carries : BestChain.Carries ⟨2013, crossingBlocks⟩ 2013 (crossingBlocks.take 6) :=
    BestChain.Carries.of_slice ⟨2013, crossingBlocks⟩ 0 6
  refine ⟨chain, _, _, _, tracked, isBest, range, proves, ?_, ?_⟩
  · exact proves.validates carries rfl (UInt32.le_refl 2013) reached rfl
  · have split : crossingBlocks.take 6 = .easy .zero 0 :: (crossingBlocks.take 6).tail := rfl
    rw [split] at carries
    have several : (crossingBlocks.take 6).tail ≠ [] := List.cons_ne_nil _ _
    have included : Merkle.verify .zero (Header.easy .zero 0).merkleRoot []
        (0 : UInt32).toUInt64 = .ok () := by
      decide
    have required : (⟨6, false⟩ : VerifierConfig).requiredConfirmations.toNat =
        (Header.easy .zero 0 :: (crossingBlocks.take 6).tail).length := rfl
    exact ⟨_, proves.accepts carries several (UInt32.le_refl 2013) reached included required rfl⟩

end WindowRelay

end HeaderRelay
