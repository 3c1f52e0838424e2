import HeaderRelay.Proofs.Header.Verdict
import HeaderRelay.Proofs.Target
import HeaderRelay.Proofs.WindowRelay.Epochs

/-!
# When a batch is taken in, and what it changes

A batch is checked by a walk along its targets and then as a chain between two
difficulties.  Both are told here without their inner state: the targets by what a
header may carry on top of the one below it, the chain by its links and its work.
Difficulties do not occur, for headers with such targets have the two difficulties that
are asked for.

Nor is a batch ever too old.  It leads above the tip, so it begins at most five blocks
below, and so far back the window knows its epochs: it has seen the last boundary, or
it began above it.
-/

namespace HeaderRelay.WindowRelay

variable {relay next start : WindowRelay} {chain later : TrackedChain} {best : BestChain}
  {current base : EpochStart} {met crossed : Option EpochStart} {ancestor height tip : Height}
  {lower upper first header : Header} {headers rest added : List Header} {number offset : Nat}
  {capacity : Nat} {bytes : Bytes} {error : Error}

/-! ## Targets from header to header -/

/-- Whether a header at a height may stand on another one, as far as targets are concerned.
Within an epoch targets stay. The first header of the current epoch may be replaced by one
with the same target, and any other epoch begins within a factor of four. -/
def MayCarry (current : EpochStart) (number : Nat) (lower upper : Header) : Prop :=
  if number % 2016 ≠ 0 then upper.target = lower.target
  else if number = current.height.toNat then upper.target = current.header.target
  else
    upper.target ≠ 0 ∧ lower.target.toNat / 4 ≤ upper.target.toNat ∧
      upper.target.toNat ≤ 4 * lower.target.toNat

/-- Whether every header may stand on the one before, the first of them at a height. -/
def Rises (current : EpochStart) (number : Nat) (headers : List Header) : Prop :=
  ∀ index lower upper, headers[index]? = some lower → headers[index + 1]? = some upper →
    MayCarry current (number + index + 1) lower upper

theorem rises_singleton : Rises current number [header] := nofun

theorem rises_cons_cons :
    Rises current number (lower :: upper :: rest) ↔
      MayCarry current (number + 1) lower upper ∧ Rises current (number + 1) (upper :: rest) := by
  constructor
  · intro rises
    refine ⟨rises 0 lower upper rfl rfl, ?_⟩
    intro index below above atBelow atAbove
    rw [Nat.add_assoc number 1 index, Nat.add_comm 1 index]
    exact rises (index + 1) below above atBelow atAbove
  · rintro ⟨first, others⟩ index below above atBelow atAbove
    cases index with
    | zero =>
        cases atBelow
        cases atAbove
        exact first
    | succ index =>
        rw [Nat.add_comm index 1, ← Nat.add_assoc number 1 index]
        exact others index below above atBelow atAbove

/-- An epoch may be opened by what may stand on a header with the target in force. -/
theorem mayCarry_of_startsAt (opens : Epoch.startsAt height = true)
    (inForce : lower.target = base.header.target) :
    MayCarry current height.toNat lower upper ↔
      mayOpenEpoch current base height upper = true := by
  rw [MayCarry, mayOpenEpoch, if_neg (not_not.mpr (Epoch.startsAt_iff.mp opens))]
  simp only [UInt32.toNat_inj]
  split
  next => rw [decide_eq_true_eq]
  next =>
    rw [Target.mayBecome_iff, inForce]
    constructor
    · rintro ⟨nonzero, lower, upper⟩
      refine ⟨?_, nonzero, lower, upper⟩
      -- A target of four times zero would be zero.
      intro zero
      rw [zero] at upper
      exact nonzero (BitVec.eq_of_toNat_eq (Nat.le_zero.mp upper))
    · rintro ⟨_, nonzero, lower, upper⟩
      exact ⟨nonzero, lower, upper⟩

/-- The walk along targets is passed if every header may stand on the one before. -/
theorem exists_followTargets_iff (inForce : lower.target = (met.getD base).header.target)
    (fits : ancestor.toNat + offset + 1 + headers.length ≤ 2 ^ 32) :
    (∃ crossed, followTargets current base ancestor (offset + 1) met headers = .ok crossed) ↔
      Rises current (ancestor.toNat + offset) (lower :: headers) := by
  induction headers generalizing offset met lower with
  | nil => simp [followTargets, rises_singleton]
  | cons header rest ih =>
      rw [List.length_cons] at fits
      obtain ⟨height, isHeight⟩ : ∃ height : Height,
          height.toNat = ancestor.toNat + offset + 1 :=
        ⟨_, UInt32.toNat_ofNat_of_lt' (by simp only [UInt32.size]; omega)⟩
      rw [followTargets_cons isHeight, rises_cons_cons, ← isHeight]
      split
      next opens =>
        rw [mayCarry_of_startsAt opens.2 inForce]
        split
        next allowed =>
          rw [ih rfl (by omega), and_iff_right allowed, isHeight, Nat.add_assoc, Option.getD_some]
        next refused => simp [refused]
      next opensNot =>
        have inside : height.toNat % 2016 ≠ 0 :=
          fun boundary => opensNot ⟨Nat.succ_pos _, Epoch.startsAt_iff.mpr boundary⟩
        rw [MayCarry, if_pos inside]
        split
        next same =>
          rw [ih same (by omega), and_iff_right (same.trans inForce.symm), isHeight, Nat.add_assoc]
        next other => simp [inForce, other]

theorem exists_checkHeaders_iff {constants : Network.Constants}
    (fits : ancestor.toNat + (first :: added).length ≤ 2 ^ 32)
    (short : (first :: added).length ≤ 2016) :
    (∃ crossed, checkHeaders constants chain ancestor (first :: added) = .ok crossed) ↔
      (∃ base, startFor chain ancestor = .ok base ∧ first.target = base.header.target) ∧
        Rises chain.epochStart ancestor.toNat (first :: added) ∧
        Header.Linked (first :: added) ∧
        ∀ block ∈ first :: added, block.hasValidWork = true := by
  have walk {base : EpochStart} :
      (∃ crossed, followTargets chain.epochStart base ancestor 0 none (first :: added) =
        .ok crossed) ↔
          first.target = base.header.target ∧
            Rises chain.epochStart ancestor.toNat (first :: added) := by
    rw [followTargets_cons (Nat.add_zero _).symm, if_neg (fun opens => Nat.lt_irrefl 0 opens.1),
      Option.getD_none]
    split
    next same =>
      rw [List.length_cons, Nat.add_comm added.length, ← Nat.add_assoc] at fits
      rw [and_iff_right same]
      exact exists_followTargets_iff same fits
    next other => simp [other]
  simp only [checkHeaders_eq_ok_iff_follows fits short, ← followTargets_eq_ok_iff fits short]
  constructor
  · rintro ⟨crossed, base, begins, followed, linked, works⟩
    obtain ⟨same, rises⟩ := walk.mp ⟨crossed, followed⟩
    exact ⟨⟨base, begins, same⟩, rises, linked, works⟩
  · rintro ⟨⟨base, begins, same⟩, rises, linked, works⟩
    obtain ⟨crossed, followed⟩ := walk.mpr ⟨same, rises⟩
    exact ⟨crossed, base, begins, followed, linked, works⟩

/-! ## Epochs that are known -/

/-- What is known of the epochs of a window: where its epoch starts are, and that it began
in the current epoch if it knows no other. -/
structure KnowsEpochs (chain : TrackedChain) (best : BestChain) : Prop where
  paced : chain.IsPaced
  rooted : chain.previousEpochStart = none →
    chain.epochStart.height.toNat ≤ best.genesisHeight.toNat

theorem established_knowsEpochs : Established fun _ chain best => KnowsEpochs chain best := by
  intro _ _ _ _ height _ _ _ _ _
  have startOf := Epoch.toNat_startOf height
  exact ⟨⟨startOf, nofun⟩, fun _ => startOf ▸ Nat.sub_le _ _⟩

theorem preserved_knowsEpochs : Preserved fun _ chain best => KnowsEpochs chain best where
  batch knows _ batch := by
    have advance := batch.advance knows.paced
    refine ⟨advance.isPaced knows.paced batch, ?_⟩
    cases advance with
    | within => exact knows.rooted
    | reopens previous _ place =>
        rw [extendTo_of_reopens place]
        intro none
        cases previous.symm.trans none
    | opens _ place =>
        rw [extendTo_of_opens place]
        nofun
  query knows _ := knows

/-- A window knows the epoch of every block less than an epoch below its tip. -/
theorem KnowsEpochs.exists_governs (knows : KnowsEpochs chain best)
    (begun : best.genesisHeight.toNat ≤ number) (below : number ≤ chain.tip.toNat)
    (near : chain.tip.toNat < number + 2016) : ∃ base ∈ chain.starts, base.Governs number := by
  have current := knows.paced.current
  apply knows.paced.exists_governs _ below
  rw [TrackedChain.previousStart]
  cases old : chain.previousEpochStart with
  | none => exact (knows.rooted old).trans begun
  | some previous =>
      have spaced := knows.paced.previous previous old
      rw [Option.getD_some]
      omega

/-! ## Conditions -/

/-- What is asked of a batch: seven linked headers with valid work, on a recorded block and
leading above the tip, with targets that may follow on the one in force at that block. -/
structure Warrants (relay : WindowRelay) (chain : TrackedChain) (ancestor : Height)
    (bytes : Bytes) (first : Header) (added : List Header) : Prop where
  decoded : Header.decodeChain bytes = .ok (first :: added)
  counted : (first :: added).length = 7
  joins : relay.ring.recorded? ancestor = some first.hash
  higher : chain.tip.toNat < ancestor.toNat + 6
  continuous : ∀ {index lower upper}, (first :: added)[index]? = some lower →
    (first :: added)[index + 1]? = some upper → upper.previous = Hash.double lower.encode
  works : ∀ header ∈ first :: added, header.MeetsTarget
  inForce : ∃ base ∈ chain.starts, base.Governs ancestor.toNat ∧
    first.target = base.header.target
  rises : Rises chain.epochStart ancestor.toNat (first :: added)

/-- A recorded block so far up that a batch on it leads above the tip is not too old. -/
theorem KnowsEpochs.exists_startFor (knows : KnowsEpochs chain best)
    (tracks : Tracks chain best) (shown : relay.ring.Shows best) {hash : Hash}
    (joins : relay.ring.recorded? ancestor = some hash)
    (higher : chain.tip.toNat < ancestor.toNat + 6) :
    ancestor.toNat ≤ chain.tip.toNat ∧ ∃ base, startFor chain ancestor = .ok base := by
  obtain ⟨covered, _⟩ := shown.recorded?_eq_some_iff.mp joins
  have begun := (Nat.le_max_left _ _).trans covered.1
  have ends := tracks.tip
  have known := covered.2
  have below : ancestor.toNat ≤ chain.tip.toNat := by omega
  obtain ⟨base, member, governs⟩ := knows.exists_governs begun below (by omega)
  exact ⟨below, base, (knows.paced.startFor_eq_ok_iff below).mpr ⟨member, governs⟩⟩

theorem warrants_iff (knows : KnowsEpochs chain best) (tracks : Tracks chain best)
    (shown : relay.ring.Shows best) (fits : ancestor.toNat + 7 ≤ 2 ^ 32) :
    relay.Warrants chain ancestor bytes first added ↔
      Header.decodeChain bytes = .ok (first :: added) ∧ (first :: added).length = batchSize ∧
        relay.ring.recorded? ancestor = some first.hash ∧
        chain.tip.toNat < ancestor.toNat + 6 ∧
        ∃ crossed, checkHeaders relay.constants chain ancestor (first :: added) = .ok crossed := by
  constructor
  · intro warrants
    have counted := warrants.counted
    have higher := warrants.higher
    obtain ⟨below, _⟩ := knows.exists_startFor tracks shown warrants.joins higher
    obtain ⟨base, member, governs, same⟩ := warrants.inForce
    have begins := (knows.paced.startFor_eq_ok_iff below).mpr ⟨member, governs⟩
    refine ⟨warrants.decoded, counted, warrants.joins, higher, ?_⟩
    rw [exists_checkHeaders_iff (counted ▸ fits) (by omega), Header.linked_iff]
    exact ⟨⟨base, begins, same⟩, warrants.rises, warrants.continuous,
      fun header member => Header.hasValidWork_iff.mpr (warrants.works header member)⟩
  · rintro ⟨decoded, counted, joins, higher, passed⟩
    obtain ⟨below, _⟩ := knows.exists_startFor tracks shown joins higher
    rw [batchSize] at counted
    rw [exists_checkHeaders_iff (counted ▸ fits) (by omega), Header.linked_iff] at passed
    obtain ⟨⟨base, begins, same⟩, rises, continuous, works⟩ := passed
    obtain ⟨member, governs⟩ := (knows.paced.startFor_eq_ok_iff below).mp begins
    exact ⟨decoded, counted, joins, higher, continuous,
      fun header member => Header.hasValidWork_iff.mp (works header member),
      ⟨base, member, governs, same⟩, rises⟩

/-! ## Effect -/

theorem Follows.eq_none (follows : Follows current base ancestor headers crossed)
    (inside : ∀ offset, 0 < offset → offset < headers.length →
      (ancestor.toNat + offset) % 2016 ≠ 0) : crossed = none := by
  cases follows with
  | within => rfl
  | @crosses before after start boundary reached =>
      have next := Epoch.nextStart_eq ancestor
      rw [List.length_append, List.length_cons] at inside
      exact absurd (by omega) (inside before.length (by omega) (by omega))

theorem Follows.eq_some (follows : Follows current base ancestor headers crossed)
    (short : headers.length ≤ 2016) (positive : 0 < offset)
    (listed : headers[offset]? = some header)
    (boundary : (ancestor.toNat + offset) % 2016 = 0) :
    ∃ start, crossed = some start ∧ start.height.toNat = ancestor.toNat + offset ∧
      start.header = header := by
  have next := Epoch.nextStart_eq ancestor
  obtain ⟨inside, _⟩ := List.getElem?_eq_some_iff.mp listed
  cases crossed with
  | none =>
      cases follows with
      | within ends => omega
  | some start =>
      have place : start.height.toNat = ancestor.toNat + offset := by
        cases follows with
        | crosses isNext => omega
      have stands := follows.listed
      rw [place, Nat.add_sub_cancel_left] at stands
      exact ⟨start, rfl, place, Option.some.inj (stands.symm.trans listed)⟩

/-- What a batch changes: the slots of its heights above the ancestor, the tip, and the epoch
starts if an epoch begins at one of these heights. -/
structure Takes (relay : WindowRelay) (chain : TrackedChain) (ancestor : Height)
    (headers : List Header) (next : WindowRelay) (later : TrackedChain) : Prop where
  tracked : next.chain = some later
  constants : next.constants = relay.constants
  governance : next.governance = relay.governance
  capacity : next.capacity = relay.capacity
  filled : ∀ {offset header} {height : Height}, 0 < offset → headers[offset]? = some header →
    height.toNat = ancestor.toNat + offset →
      next.ring.slots[height.toNat % relay.capacity]? = some (some (height, header.hash))
  kept : ∀ {position}, (∀ offset, 0 < offset → offset ≤ 6 →
    position ≠ (ancestor.toNat + offset) % relay.capacity) →
      next.ring.slots[position]? = relay.ring.slots[position]?
  genesisHeight : later.genesisHeight = chain.genesisHeight
  tip : later.tip.toNat = ancestor.toNat + 6
  inside : (∀ offset, 0 < offset → offset ≤ 6 → (ancestor.toNat + offset) % 2016 ≠ 0) →
    later.epochStart = chain.epochStart ∧ later.previousEpochStart = chain.previousEpochStart
  crossing : ∀ {offset header}, 0 < offset → headers[offset]? = some header →
    (ancestor.toNat + offset) % 2016 = 0 →
      later.epochStart.height.toNat = ancestor.toNat + offset ∧
        later.epochStart.header = header ∧
        later.previousEpochStart =
          if ancestor.toNat + offset = chain.epochStart.height.toNat then
            chain.previousEpochStart
          else some chain.epochStart

theorem Batch.takes (batch : Batch chain best ancestor tip base crossed first added)
    (paced : chain.IsPaced) (roomy : batchSize ≤ relay.ring.capacity) :
    relay.Takes chain ancestor (first :: added)
      { relay with
        ring := relay.ring.recordAll (ancestor + 1) (added.map Header.hash)
        chain := some (extendTo chain tip crossed) } (extendTo chain tip crossed) := by
  have six := batch.six
  have leads := batch.leads
  have limit := tip.toNat_lt
  have above := Height.toNat_succ ancestor
  have advance := batch.advance paced
  have counted : (first :: added).length = 7 := by rw [List.length_cons, six]
  have hashes : (added.map Header.hash).length = 6 := by rw [List.length_map, six]
  rw [batchSize] at roomy
  refine ⟨rfl, rfl, rfl, Ring.capacity_recordAll, ?_, ?_, genesisHeight_extendTo, ?_, ?_, ?_⟩
  · intro offset header height positive listed place
    obtain ⟨offset, rfl⟩ := Nat.exists_eq_succ_of_ne_zero positive.ne'
    rw [List.getElem?_cons_succ] at listed
    have listedHash : (added.map Header.hash)[offset]? = some header.hash := by
      rw [List.getElem?_map, listed, Option.map_some]
    exact Ring.slots_recordAll_of_listed (by omega) (by omega) listedHash (by omega)
  · intro position apart
    apply Ring.slots_recordAll_of_apart (by omega)
    rintro number ⟨low, high⟩
    have := apart (number - ancestor.toNat) (by omega) (by omega)
    rwa [Nat.add_sub_cancel' (by omega)] at this
  · rw [tip_extendTo, leads]
  · intro inside
    obtain rfl := batch.follows.eq_none fun offset positive short =>
      inside offset positive (by omega)
    exact ⟨rfl, rfl⟩
  · intro offset header positive listed boundary
    obtain ⟨start, rfl, place, isHeader⟩ :=
      batch.follows.eq_some (by omega) positive listed boundary
    rw [← place]
    cases advance with
    | reopens _ _ same =>
        rw [extendTo_of_reopens same, if_pos (congrArg UInt32.toNat same)]
        exact ⟨rfl, isHeader, rfl⟩
    | opens _ higher =>
        rw [extendTo_of_opens higher, if_neg (by omega)]
        exact ⟨rfl, isHeader, rfl⟩

/-! ## Refusals -/

theorem not_tooOld_of_followTargets
    (failed : followTargets current base ancestor offset met headers = .error error) :
    error ≠ RelayStateError.chainTooOld ∧ error.blamesDifficulty = false := by
  induction headers generalizing offset met with
  | nil => cases failed
  | cons header rest ih =>
      rw [followTargets] at failed
      split at failed
      next =>
        cases failed
        exact ⟨by rintro ⟨⟩, rfl⟩
      next height =>
        split at failed
        next =>
          split at failed
          next => exact ih failed
          next =>
            cases failed
            exact ⟨by rintro ⟨⟩, rfl⟩
        next =>
          split at failed
          next => exact ih failed
          next =>
            cases failed
            exact ⟨by rintro ⟨⟩, rfl⟩

theorem not_tooOld_of_checkHeaders {constants : Network.Constants}
    (begins : startFor chain ancestor = .ok base)
    (fits : ancestor.toNat + headers.length ≤ 2 ^ 32) (short : headers.length ≤ 2016)
    (failed : checkHeaders constants chain ancestor headers = .error error) :
    error ≠ RelayStateError.chainTooOld ∧ error.blamesDifficulty = false := by
  unfold checkHeaders at failed
  rcases Checks.bind_eq_error_iff.mp failed with tooOld | ⟨other, begun, failed⟩
  · cases begins.symm.trans tooOld
  rcases Checks.bind_eq_error_iff.mp failed with strays | ⟨crossed, followed, failed⟩
  · exact not_tooOld_of_followTargets strays
  rcases Checks.bind_eq_error_iff.mp failed with invalid | ⟨_, _, failed⟩
  · have follows := (followTargets_eq_ok_iff fits short).mp followed
    refine ⟨?_, ValidatedChain.blamesDifficulty_of_admits follows.admits invalid⟩
    obtain ⟨_, rfl⟩ | ⟨_, _, _, rfl⟩ := ValidatedChain.ofHeaders_eq_error_iff.mp invalid
    · rintro ⟨⟩
    · rintro ⟨⟩
  · cases failed

theorem not_tooOld_of_addHeaders (knows : KnowsEpochs chain best) (tracks : Tracks chain best)
    (shown : relay.ring.Shows best) (tracked : relay.chain = some chain)
    (fits : ancestor.toNat + 7 ≤ 2 ^ 32) (failed : relay.addHeaders ancestor bytes = .error error) :
    error ≠ RelayStateError.chainTooOld ∧ error.blamesDifficulty = false := by
  unfold addHeaders at failed
  rcases Checks.bind_eq_error_iff.mp failed with unready | ⟨_, ready, failed⟩
  · cases (tracked_eq_ok_iff.mpr tracked).symm.trans unready
  cases tracked.symm.trans (tracked_eq_ok_iff.mp ready)
  rcases Checks.bind_eq_error_iff.mp failed with undecoded | ⟨headers, _, failed⟩
  · obtain ⟨cause, _, rfl⟩ := Checks.mapError_eq_error_iff.mp undecoded
    exact ⟨by rintro ⟨⟩, rfl⟩
  split at failed
  next =>
    cases Checks.throw_eq_error_iff.mp failed
    exact ⟨by rintro ⟨⟩, rfl⟩
  next first added =>
    rcases Checks.refusal_eq_error_iff.mp failed with ⟨_, rfl⟩ | ⟨counted, failed⟩
    · exact ⟨by rintro ⟨⟩, rfl⟩
    split at failed
    next =>
      cases Checks.throw_eq_error_iff.mp failed
      exact ⟨by rintro ⟨⟩, rfl⟩
    next recorded found =>
      rcases Checks.refusal_eq_error_iff.mp failed with ⟨_, rfl⟩ | ⟨_, failed⟩
      · exact ⟨by rintro ⟨⟩, rfl⟩
      split at failed
      next =>
        cases Checks.throw_eq_error_iff.mp failed
        exact ⟨by rintro ⟨⟩, rfl⟩
      next tip above =>
        rcases Checks.refusal_eq_error_iff.mp failed with ⟨_, rfl⟩ | ⟨higher, failed⟩
        · exact ⟨by rintro ⟨⟩, rfl⟩
        rcases Checks.bind_eq_error_iff.mp failed with refused | ⟨_, _, failed⟩
        · have leads := Height.up?_eq_some_iff.mp above
          rw [batchSize] at counted leads
          rw [UInt32.not_le, UInt32.lt_iff_toNat_lt] at higher
          obtain ⟨_, base, begins⟩ := knows.exists_startFor tracks shown found (by omega)
          exact not_tooOld_of_checkHeaders begins (by omega) (by omega) refused
        · cases failed

/-! ## Runs -/

theorem step_addHeaders_eq_ok_iff {answer : Answer} :
    relay.step (.addHeaders ancestor bytes) = (next, .ok answer) ↔
      relay.addHeaders ancestor bytes = .ok next ∧ .done = answer := by
  rw [step]
  cases relay.addHeaders ancestor bytes with
  | ok changed => simp [change]
  | error error => simp [change]

theorem step_addHeaders_eq_error_iff :
    (relay.step (.addHeaders ancestor bytes)).2 = .error error ↔
      relay.addHeaders ancestor bytes = .error error := by
  rw [step]
  cases relay.addHeaders ancestor bytes with
  | ok changed => simp [change]
  | error other => simp [change]

theorem Warrants.step_eq (warrants : relay.Warrants chain ancestor bytes first added)
    (knows : KnowsEpochs chain best) (tracks : Tracks chain best)
    (shown : relay.ring.Shows best) (tracked : relay.chain = some chain)
    (roomy : batchSize ≤ relay.ring.capacity) (fits : ancestor.toNat + 7 ≤ 2 ^ 32) :
    ∃ next later, relay.Takes chain ancestor (first :: added) next later ∧
      relay.step (.addHeaders ancestor bytes) = (next, .ok .done) := by
  obtain ⟨decoded, counted, joins, higher, crossed, passed⟩ :=
    (warrants_iff knows tracks shown fits).mp warrants
  obtain ⟨tip, leads⟩ : ∃ tip : Height, tip.toNat = ancestor.toNat + 6 :=
    ⟨_, UInt32.toNat_ofNat_of_lt' (by simp only [UInt32.size]; omega)⟩
  have above : ancestor.up? (batchSize - 1) = some tip := Height.up?_eq_some_iff.mpr leads
  have raised : chain.tip < tip := by rwa [UInt32.lt_iff_toNat_lt, leads]
  obtain ⟨base, batch⟩ := exists_batch tracks shown counted joins above raised passed
  exact ⟨_, _, batch.takes knows.paced roomy, step_addHeaders_eq_ok_iff.mpr
    ⟨addHeaders_eq_ok_iff.mpr ⟨chain, first, added, tip, crossed, tracked, decoded, counted, joins,
      above, raised, passed, rfl⟩, rfl⟩⟩

/-- A batch is taken in exactly if it is warranted. Then the six slots of its heights above
the ancestor are filled, the tip is the last of these heights, and the epoch starts change if
an epoch begins among them. A batch that is refused changes nothing, and is never refused
for being too old or for the difficulty of a header. -/
theorem batches_are_judged_exactly {constants : Network.Constants} {governance : String}
    (created : create capacity constants governance = .ok start) (calls : List Call)
    (reached : start.run calls = relay) (tracked : relay.chain = some chain) (ancestor : Height)
    (inRange : ancestor.toNat + 6 ≤ 2 ^ 32 - 3) (bytes : Bytes) :
    ((∃ answer, (relay.step (.addHeaders ancestor bytes)).2 = .ok answer) ↔
        ∃ first added, relay.Warrants chain ancestor bytes first added) ∧
      (∀ first added, relay.Warrants chain ancestor bytes first added →
        ∃ next later, relay.Takes chain ancestor (first :: added) next later ∧
          relay.step (.addHeaders ancestor bytes) = (next, .ok .done)) ∧
      ∀ error, (relay.step (.addHeaders ancestor bytes)).2 = .error error →
        (relay.step (.addHeaders ancestor bytes)).1 = relay ∧
          error ≠ RelayStateError.chainTooOld ∧ error.blamesDifficulty = false := by
  have mirrors := mirrors_run created calls
  have keeps := keeps_run created established_knowsEpochs preserved_knowsEpochs calls
  rw [reached] at mirrors keeps
  obtain ⟨best, isBest, tracks, shown⟩ := mirrors.shows tracked
  have knows := keeps.holds tracked isBest
  have roomy : batchSize ≤ relay.ring.capacity := mirrors.sized ▸ mirrors.roomy
  have fits : ancestor.toNat + 7 ≤ 2 ^ 32 := by omega
  have effect (first added) (warrants : relay.Warrants chain ancestor bytes first added) :=
    warrants.step_eq knows tracks shown tracked roomy fits
  refine ⟨⟨?_, ?_⟩, effect, ?_⟩
  · rintro ⟨answer, answered⟩
    obtain ⟨taken, _⟩ := step_addHeaders_eq_ok_iff.mp (Prod.ext rfl answered)
    obtain ⟨_, first, added, tip, crossed, same, decoded, counted, joins, above, higher, passed,
      _⟩ := addHeaders_eq_ok_iff.mp taken
    cases tracked.symm.trans same
    have leads := Height.up?_eq_some_iff.mp above
    rw [UInt32.lt_iff_toNat_lt, leads] at higher
    exact ⟨first, added, (warrants_iff knows tracks shown fits).mpr
      ⟨decoded, counted, joins, higher, crossed, passed⟩⟩
  · rintro ⟨first, added, warrants⟩
    obtain ⟨_, _, _, answered⟩ := effect first added warrants
    exact ⟨_, congrArg Prod.snd answered⟩
  · intro error failed
    exact ⟨step_fst_of_error failed, not_tooOld_of_addHeaders knows tracks shown tracked fits
      (step_addHeaders_eq_error_iff.mp failed)⟩

/-- A batch across a boundary opens the epoch there. One block lower it stands on nothing. -/
theorem testRelay_judges_batches :
    ∃ chain, (testRelay.run (crossingCalls.take 1)).chain = some chain ∧
      (∃ next later, (testRelay.run (crossingCalls.take 1)).Takes chain 2013 crossingBlocks
          next later ∧ later.epochStart.height.toNat = 2016 ∧
        (testRelay.run (crossingCalls.take 1)).step
          (.addHeaders 2013 (Header.encodeChain crossingBlocks)) = (next, .ok .done)) ∧
      ¬∃ first added, (testRelay.run (crossingCalls.take 1)).Warrants chain 2012
        (Header.encodeChain crossingBlocks) first added := by
  have created : create 7 Network.regtest.constants "governance" = .ok testRelay := rfl
  obtain ⟨chain, tracked⟩ : ∃ chain, (testRelay.run (crossingCalls.take 1)).chain = some chain :=
    Option.isSome_iff_exists.mp (by decide +kernel)
  obtain ⟨accepted_iff, effect, _⟩ := batches_are_judged_exactly created (crossingCalls.take 1) rfl
    tracked 2013 (by decide) (Header.encodeChain crossingBlocks)
  obtain ⟨lower_iff, _, _⟩ := batches_are_judged_exactly created (crossingCalls.take 1) rfl
    tracked 2012 (by decide) (Header.encodeChain crossingBlocks)
  have answered : ((testRelay.run (crossingCalls.take 1)).step
      (.addHeaders 2013 (Header.encodeChain crossingBlocks))).2 = .ok .done := by
    decide +kernel
  have refused : ((testRelay.run (crossingCalls.take 1)).step
      (.addHeaders 2012 (Header.encodeChain crossingBlocks))).2 =
        .error (RelayStateError.ancestorNotRecorded 2012) := by
    decide +kernel
  refine ⟨chain, tracked, ?_, ?_⟩
  · obtain ⟨first, added, warrants⟩ := accepted_iff.mp ⟨_, answered⟩
    obtain ⟨next, later, takes, stepped⟩ := effect first added warrants
    have decoded := (Header.decodeChain_encodeChain crossingBlocks).symm.trans warrants.decoded
    rw [← Except.ok.inj decoded] at takes
    have third : crossingBlocks[3]? = some crossingBlocks[3] := rfl
    exact ⟨next, later, takes, (takes.crossing (by decide) third rfl).1, stepped⟩
  · rw [← lower_iff]
    rintro ⟨answer, accepted⟩
    cases refused.symm.trans accepted

end HeaderRelay.WindowRelay
