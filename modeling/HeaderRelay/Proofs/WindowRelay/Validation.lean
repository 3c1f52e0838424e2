import HeaderRelay.Proofs.Header.Verdict
import HeaderRelay.Proofs.Target
import HeaderRelay.Proofs.WindowRelay.Epochs
import HeaderRelay.Proofs.WindowRelay.Work

/-!
# What a validation confirms

A validation looks up one of six headers, the fourth.  The three below it are on the
chain all the same, for each header commits to the one below: who agrees with a chain
on a block agrees with it on everything below that block.

Nothing of this kind holds for the two headers above.  They may leave the chain or lead
beyond its tip, even into an epoch that the window has not entered, and are held to the
targets of their heights and to nothing else.
-/

namespace HeaderRelay

/-! ## Headers below a block -/

/-- Linked headers that meet a chain in one block follow it down from there, if hashes
tell their headers from its blocks. -/
theorem BestChain.at?_of_linked {best : BestChain} {headers : List Header}
    (chained : ∀ {number lower upper}, best.at? number = some lower →
      best.at? (number + 1) = some upper → upper.previous = lower.hash)
    (linked : Header.Linked headers)
    (identified : ∀ block ∈ best.blocks, ∀ header ∈ headers,
      block.hash = header.hash → block = header)
    {number top offset position : Nat} {meeting header : Header}
    (stands : headers[position]? = some meeting) (meets : best.at? top = some meeting)
    (behind : offset ≤ position) (aligned : top + offset = number + position)
    (started : best.genesisHeight.toNat ≤ number) (listed : headers[offset]? = some header) :
    best.at? number = some header := by
  obtain ⟨count, rfl⟩ := Nat.exists_eq_add_of_le behind
  obtain rfl : top = number + count := by omega
  clear behind aligned
  induction count generalizing number offset header with
  | zero =>
      cases stands.symm.trans listed
      exact meets
  | succ count ih =>
      obtain ⟨above, _⟩ := List.getElem?_eq_some_iff.mp stands
      obtain ⟨upper, onTop⟩ : ∃ upper, headers[offset + 1]? = some upper :=
        ⟨_, List.getElem?_eq_getElem (by omega)⟩
      have upperStands : best.at? (number + 1) = some upper := by
        refine ih (Nat.le_succ_of_le started) onTop ?_ ?_
        · rwa [Nat.add_right_comm, Nat.add_assoc]
        · rwa [Nat.add_right_comm, Nat.add_assoc]
      obtain ⟨block, found⟩ :=
        best.exists_at? started (Nat.lt_of_succ_lt (BestChain.lt_above_of_at? upperStands))
      -- Both are committed to by the header on top.
      have sameHash : block.hash = header.hash :=
        (chained found upperStands).symm.trans (Header.linked_iff.mp linked listed onTop)
      rw [found, identified block (BestChain.mem_of_at? found) header
        (List.mem_of_getElem? listed) sameHash]

namespace WindowRelay

variable {relay : WindowRelay} {chain : TrackedChain} {best : BestChain} {current base : EpochStart}
  {met crossed : Option EpochStart} {first height oldest : Height} {header anchor : Header}
  {headers : List Header} {offset number capacity : Nat} {bytes : Bytes}

/-! ## Targets by height -/

/-- On what grounds a header at a height has its target, if it is one of some headers from
a height on. -/
inductive Grounds (chain : TrackedChain) (first : Height) (headers : List Header)
    (number : Nat) (header : Header) : Prop where
  /-- It is that of the start of its epoch, which is tracked. -/
  | tracked {start : EpochStart} (member : start ∈ chain.starts) (governs : start.Governs number)
      (same : header.target = start.header.target)
  /-- It is that of the header which opens the epoch after the current one, and this may
  follow on the target of the current epoch. -/
  | opened {offset : Nat} {opening : Header}
      (boundary : first.toNat + offset = chain.epochStart.height.toNat + 2016)
      (stands : headers[offset]? = some opening) (reached : first.toNat + offset ≤ number)
      (same : header.target = opening.target) (nonzero : opening.target ≠ 0)
      (lower : chain.epochStart.header.target.toNat / 4 ≤ opening.target.toNat)
      (upper : opening.target.toNat ≤ 4 * chain.epochStart.header.target.toNat)

/-- Headers that pass have grounds for their targets. -/
theorem Follows.grounds (follows : Follows chain.epochStart base first headers crossed)
    (paced : chain.IsPaced) (begins : base ∈ chain.starts) (governs : base.Governs first.toNat)
    (short : headers.length ≤ 2016) (listed : headers[offset]? = some header) :
    Grounds chain first headers (first.toNat + offset) header := by
  have same := follows.target listed
  have boundary := paced.nextStart_eq begins governs
  obtain ⟨inside, _⟩ := List.getElem?_eq_some_iff.mp listed
  obtain ⟨reached, _⟩ := governs
  split at same
  next below =>
    rw [boundary] at below
    exact .tracked begins ⟨reached.trans (Nat.le_add_right _ _), below⟩ same
  next beyond =>
    cases follows with
    | within ends => omega
    | @crosses before after start isNext place allowed =>
        rw [Option.getD_some] at same
        rcases TrackedChain.mem_starts.mp begins with rfl | old
        · have elsewhere : start.height ≠ chain.epochStart.height := by
            intro same
            rw [same] at isNext
            omega
          rw [mayOpenEpoch, if_neg elsewhere] at allowed
          obtain ⟨_, nonzero, lower, upper⟩ := Target.mayBecome_iff.mp allowed
          exact .opened (by omega) (List.getElem?_append_right (Nat.le_refl _) |>.trans (by simp))
            (by omega) same nonzero lower upper
        · rw [paced.previous _ old] at boundary
          have here := UInt32.toNat_inj.mp (isNext.trans boundary)
          rw [mayOpenEpoch, if_pos here, decide_eq_true_eq] at allowed
          exact .tracked chain.epochStart_mem_starts ⟨by omega, by omega⟩ (same.trans allowed)

/-- Only heights that there are can be walked along. -/
theorem inRange_of_followTargets
    (passed : followTargets current base first offset met headers = .ok crossed) :
    ∀ index < headers.length, first.toNat + offset + index < 2 ^ 32 := by
  induction headers generalizing offset met with
  | nil => simp
  | cons header rest ih =>
      rw [followTargets] at passed
      split at passed
      next => cases passed
      next height up =>
        have inRange := height.toNat_lt
        rw [Height.up?_eq_some_iff.mp up] at inRange
        have further : ∀ index < rest.length, first.toNat + (offset + 1) + index < 2 ^ 32 := by
          split at passed
          next =>
            split at passed
            next => exact ih passed
            next => cases passed
          next =>
            split at passed
            next => exact ih passed
            next => cases passed
        intro index inside
        cases index with
        | zero => exact inRange
        | succ index =>
            have := further index (Nat.lt_of_succ_lt_succ inside)
            omega

/-! ## Answers -/

/-- What a validation confirms of six headers from a height on: they are linked, each has
valid work and a target on good grounds, and the first four are blocks of the chain, as far
down as the window reaches. -/
structure Confirms (relay : WindowRelay) (chain : TrackedChain) (best : BestChain)
    (oldest first : Height) (headers : List Header) : Prop where
  counted : headers.length = 6
  continuous : ∀ {index lower upper}, headers[index]? = some lower →
    headers[index + 1]? = some upper → upper.previous = Hash.double lower.encode
  works : ∀ header ∈ headers, header.MeetsTarget
  recorded : ∀ {offset header} {place : Height}, offset ≤ 3 → headers[offset]? = some header →
    place.toNat = first.toNat + offset → oldest ≤ place →
      best.at? place.toNat = some header ∧ relay.isRecorded place header.hash = true
  grounds : ∀ {offset header}, headers[offset]? = some header →
    Grounds chain first headers (first.toNat + offset) header

theorem confirms_of_checkHeaders (exhibits : relay.Exhibits capacity best oldest chain.tip)
    (paced : chain.IsPaced)
    (identified : ∀ block ∈ best.blocks, ∀ header ∈ headers,
      block.hash = header.hash → block = header)
    (six : headers.length = 6) (fourth : headers[3]? = some anchor)
    (aligned : height.toNat = first.toNat + 3)
    (recorded : relay.isRecorded height anchor.hash = true)
    (passed : checkHeaders relay.constants chain first headers = .ok crossed) :
    relay.Confirms chain best oldest first headers := by
  obtain ⟨_, below, block, found, sameHash⟩ := (exhibits.recorded_iff _ _).mp recorded
  rw [UInt32.le_iff_toNat_le] at below
  obtain rfl := identified block (BestChain.mem_of_at? found) anchor
    (List.mem_of_getElem? fourth) sameHash
  have nonempty : headers ≠ [] := List.ne_nil_of_length_pos (by omega)
  obtain ⟨lowest, rest, rfl⟩ := List.exists_cons_of_ne_nil nonempty
  have fits : first.toNat + (lowest :: rest).length ≤ 2 ^ 32 := by
    obtain ⟨_, _, followed, _⟩ := checkHeaders_eq_ok_iff.mp passed
    have := inRange_of_followTargets followed 5 (by omega)
    omega
  obtain ⟨base, begins, follows, linked, works⟩ :=
    (checkHeaders_eq_ok_iff_follows fits (by omega)).mp passed
  obtain ⟨member, governs⟩ := (paced.startFor_eq_ok_iff (by omega)).mp begins
  refine ⟨six, Header.linked_iff.mp linked,
    fun header listed => Header.hasValidWork_iff.mp (works header listed), ?_,
    fun listed => follows.grounds paced member governs (by omega) listed⟩
  intro offset header place low listed isPlace inRange
  have stands : best.at? place.toNat = some header := by
    rw [UInt32.le_iff_toNat_le] at inRange
    have atLeast := exhibits.oldest_toNat
    exact BestChain.at?_of_linked exhibits.linked linked identified fourth found low (by omega)
      (by omega) listed
  exact ⟨stands, (exhibits.recorded_iff _ _).mpr
    ⟨inRange, UInt32.le_iff_toNat_le.mpr (by omega), header, stands, rfl⟩⟩

/-- Six headers are not confirmed, without an error, exactly if the fourth of them is not
the block recorded at the height. -/
theorem validate_eq_ok_false_iff (tracked : relay.chain = some chain)
    (decoded : Header.decodeChain bytes = .ok headers) (six : headers.length = 6)
    (fourth : headers[3]? = some anchor) :
    relay.validate height bytes = .ok false ↔
      height.toNat < 3 ∨ (∀ hash, relay.isRecorded height hash = false) ∨
        ∃ hash, relay.isRecorded height hash = true ∧ hash ≠ anchor.hash := by
  have known : relay.tracked = .ok chain := tracked_eq_ok_iff.mpr tracked
  rcases headers with _ | ⟨_, _ | ⟨_, _ | ⟨_, _ | ⟨_, _ | ⟨_, _ | ⟨_, _ | ⟨_, _⟩⟩⟩⟩⟩⟩⟩
  case cons.cons.cons.cons.cons.cons.nil =>
    cases fourth
    rw [← Height.down?_eq_none_iff]
    simp only [validate, known, decoded, Checks.bind_eq_ok_iff, Checks.mapError_eq_ok_iff,
      Except.ok.injEq, exists_eq_left', isRecorded_iff, ← Bool.not_eq_true]
    cases height.down? 3 with
    | none => simp
    | some first =>
        cases relay.ring.recorded? height with
        | none => simp
        | some recorded =>
            by_cases same : recorded = anchor.hash
            · -- Then the headers are confirmed or in error.
              simp only [same, ne_eq, not_true_eq_false, if_false, Option.some.injEq]
              generalize checkHeaders relay.constants chain first _ = checked
              cases checked <;> simp
            · simp [same]
  -- There are no fewer headers than six, and no more.
  all_goals simp at six

/-! ## Runs -/

/-- In every run a validation that succeeds confirms its six headers, unless two headers
with one hash are around, and it denies just those of which the fourth is not recorded at
the height. -/
theorem validations_stay_on_chain {constants : Network.Constants} {governance : String}
    {initial : WindowRelay} (created : create capacity constants governance = .ok initial)
    (calls : List Call) (tracked : (initial.run calls).chain = some chain) (height : Height)
    (bytes : Bytes)
    (identified : Header.Identified
      (submitted (initial.accepted calls) ++ (Header.decodeChain bytes).toOption.getD [])) :
    ∃ best oldest, BestChain.ofCalls (initial.accepted calls) = some best ∧
      (initial.run calls).range = .ok (oldest, chain.tip) ∧
      ((initial.run calls).validate height bytes = .ok true →
        ∃ first headers, first.toNat + 3 = height.toNat ∧
          Header.decodeChain bytes = .ok headers ∧
          (initial.run calls).Confirms chain best oldest first headers) ∧
      ∀ headers anchor, Header.decodeChain bytes = .ok headers → headers.length = 6 →
        headers[3]? = some anchor →
          ((initial.run calls).validate height bytes = .ok false ↔
            height.toNat < 3 ∨ (∀ hash, (initial.run calls).isRecorded height hash = false) ∨
              ∃ hash, (initial.run calls).isRecorded height hash = true ∧
                hash ≠ anchor.hash) := by
  have mirrors := mirrors_run created calls
  have keepsEpochs := keeps_run created established_keepsEpochs preserved_keepsEpochs calls
  have keepsWork := keeps_run created established_keepsWork preserved_keepsWork calls
  generalize initial.run calls = relay at *
  obtain ⟨best, oldest, tip, isBest, exhibits⟩ := mirrors.exhibits (by simp [tracked])
  obtain ⟨_, same, rfl⟩ := height_eq_ok_iff.mp exhibits.height
  cases tracked.symm.trans same
  have paced := (keepsEpochs.holds tracked isBest).paced
  have known := (keepsWork.holds tracked isBest).known
  refine ⟨best, oldest, isBest, exhibits.range, ?_,
    fun headers anchor decoded six fourth => validate_eq_ok_false_iff tracked decoded six fourth⟩
  intro validated
  obtain ⟨_, headers, anchor, first, crossed, same, decoded, six, fourth, down, found, passed⟩ :=
    validate_eq_ok_true_iff.mp validated
  cases tracked.symm.trans same
  rw [decoded] at identified
  have aligned := Height.down?_eq_some_iff.mp down
  refine ⟨first, headers, aligned.symm, decoded, confirms_of_checkHeaders exhibits paced ?_ six
    fourth aligned (isRecorded_iff.mpr found) passed⟩
  intro block member header listed
  exact identified block (List.mem_append_left _ (known block member)) header
    (List.mem_append_right _ listed)

/-- Blocks below a boundary, and two headers on top that halve the target there. -/
def overhangingBlocks : List Header :=
  tower (.easy .zero 0) [(0x207FFFFF, 2), (0x207FFFFF, 1), (0x207FFFFF, 0), (0x207FFFFF, 0),
    (0x207FFFFF, 0), (0x207FFFFF, 2), (0x203FFFFF, 1), (0x203FFFFF, 1)]

/-- Genesis seven blocks below the boundary, and a batch up to the last block below it. -/
def approachingCalls : List Call :=
  let block := Header.easy .zero 0
  [.genesis "governance" block.encode block.encode 2009,
    .addHeaders 2009 (Header.encodeChain (overhangingBlocks.take 7))]

theorem nodup_overhangingBlocks : (overhangingBlocks.map Header.hash).Nodup := by
  apply List.Nodup.of_map (fun hash => hash.bytes.headD 0)
  have firstBytes : (overhangingBlocks.map Header.hash).map
      (fun hash => hash.bytes.headD 0) = [192, 77, 181, 44, 32, 228, 147, 107, 116] := by
    decide +kernel
  rw [firstBytes]
  decide

theorem identified_overhangingBlocks :
    Header.Identified (submitted approachingCalls ++ overhangingBlocks.drop 3) := by
  have listed : ∀ header ∈ submitted approachingCalls ++ overhangingBlocks.drop 3,
      header ∈ overhangingBlocks := by
    simp [submitted, approachingCalls, Call.headers, Except.toOption, overhangingBlocks, tower]
  intro left leftMember right rightMember same
  exact List.inj_on_of_nodup_map nodup_overhangingBlocks (listed left leftMember)
    (listed right rightMember) same

theorem testRelay_approaches :
    testRelay.accepted approachingCalls = approachingCalls ∧
      (testRelay.run approachingCalls).range = .ok (2009, 2015) ∧
      (testRelay.run approachingCalls).validate 2015
        (Header.encodeChain (overhangingBlocks.drop 3)) = .ok true := by
  decide +kernel

/-- The last four blocks and two headers beyond the tip, which open an epoch there. The same
headers are denied one block lower. -/
theorem testRelay_confirms_overhangingBlocks :
    ∃ chain best, (testRelay.run approachingCalls).chain = some chain ∧
      BestChain.ofCalls (testRelay.accepted approachingCalls) = some best ∧
      (testRelay.run approachingCalls).range = .ok (2009, 2015) ∧
      (testRelay.run approachingCalls).validate 2015
        (Header.encodeChain (overhangingBlocks.drop 3)) = .ok true ∧
      (testRelay.run approachingCalls).Confirms chain best 2009 2012
        (overhangingBlocks.drop 3) ∧
      (testRelay.run approachingCalls).validate 2014
        (Header.encodeChain (overhangingBlocks.drop 3)) = .ok false := by
  have created : create 7 Network.regtest.constants "governance" = .ok testRelay := rfl
  obtain ⟨accepted, range, validated⟩ := testRelay_approaches
  obtain ⟨chain, tracked, _⟩ := range_eq_ok_iff.mp range
  have decoded := Header.decodeChain_encodeChain (overhangingBlocks.drop 3)
  have identified : Header.Identified (submitted (testRelay.accepted approachingCalls) ++
      (Header.decodeChain (Header.encodeChain (overhangingBlocks.drop 3))).toOption.getD []) := by
    rw [accepted, decoded]
    exact identified_overhangingBlocks
  obtain ⟨best, oldest, isBest, sameRange, confirms, _⟩ :=
    validations_stay_on_chain created approachingCalls tracked 2015 _ identified
  obtain ⟨_, _, _, _, _, denies⟩ :=
    validations_stay_on_chain created approachingCalls tracked 2014 _ identified
  obtain ⟨rfl, _⟩ := Prod.mk.inj (Except.ok.inj (range.symm.trans sameRange))
  obtain ⟨first, headers, aligned, same, confirmed⟩ := confirms validated
  obtain rfl : first = 2012 := UInt32.toNat_inj.mp (Nat.add_right_cancel aligned)
  obtain rfl := Except.ok.inj (decoded.symm.trans same)
  have third : (overhangingBlocks.drop 3)[2]? = some overhangingBlocks[5] := rfl
  have fourth : (overhangingBlocks.drop 3)[3]? = some overhangingBlocks[6] := rfl
  have recorded : (testRelay.run approachingCalls).isRecorded 2014 overhangingBlocks[5].hash =
      true :=
    (confirmed.recorded (by decide) third rfl (by decide)).2
  have different : overhangingBlocks[5].hash ≠ overhangingBlocks[6].hash := by
    intro sameHash
    have samePlace : (overhangingBlocks.map Header.hash)[5]? =
        (overhangingBlocks.map Header.hash)[6]? :=
      congrArg some sameHash
    exact absurd ((List.getElem?_inj (by decide) nodup_overhangingBlocks).mp samePlace) (by decide)
  exact ⟨chain, best, tracked, isBest, range, validated, confirmed,
    (denies _ _ decoded rfl fourth).mpr (.inr (.inr ⟨_, recorded, different⟩))⟩

end WindowRelay

end HeaderRelay
