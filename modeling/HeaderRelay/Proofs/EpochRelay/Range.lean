import HeaderRelay.Proofs.EpochRelay.Replay
import HeaderRelay.Proofs.EpochRelay.Verification

/-!
# Heights that a relay answers for

A relay tells the range of heights that it knows, and the difficulty at any one
height.  The range is computed from the numbers of the first and the last record.
The difficulty is looked up by position: by how many epochs that of the height is
behind the first one.  The two answers agree because the records have consecutive
numbers.

The first epoch begins at a height, but the last one may reach out of the range of
heights, or lie behind it altogether.  Then the last height of the range is the
largest one there is, so that again no height behind it is known.
-/

namespace HeaderRelay.EpochRelay

variable {relay start : EpochRelay} {first index : Nat} {record : EpochRecord}
  {epoch : Epoch} {height : Height}

/-- Whether the records are those of consecutive epochs, from one on that begins at
a height. -/
structure NumberedFrom (relay : EpochRelay) (first : Nat) : Prop where
  ready : relay.epochs ≠ []
  begins : first * 2016 < 2 ^ 32
  number : ∀ {index record}, relay.epochs[index]? = some record →
    record.epoch.toNat = first + index

theorem Chronicle.exists_numberedFrom {past : List Call} (chronicle : relay.Chronicle past)
    (recorded : relay.Recorded past) (ready : relay.epochs ≠ []) :
    ∃ first, relay.NumberedFrom first := by
  obtain ⟨_, _, height, _, started⟩ := recorded.exists_genesis ready
  refine ⟨height.toNat / 2016, ready, ?_, chronicle.numbered started⟩
  have := height.toNat_lt
  omega

/-- No two records of a row of epochs have the same number. -/
theorem filter_epoch_eq {records : List EpochRecord}
    (number : ∀ {index record}, records[index]? = some record →
      record.epoch.toNat = first + index) (offset : Nat) :
    records.filter (fun record => record.epoch.toNat = first + offset) =
      records[offset]?.toList := by
  induction records generalizing first offset with
  | nil => rfl
  | cons oldest rest ih =>
      have head : oldest.epoch.toNat = first := number List.getElem?_cons_zero
      have tail {index : Nat} {record : EpochRecord} (found : rest[index]? = some record) :
          record.epoch.toNat = first + 1 + index := by
        rw [Nat.add_right_comm]
        exact number (List.getElem?_cons_succ.trans found)
      cases offset with
      | zero =>
          have none : rest.filter (fun record => record.epoch.toNat = first + 0) = [] := by
            rw [List.filter_eq_nil_iff]
            intro record member
            obtain ⟨index, found⟩ := List.getElem?_of_mem member
            have := tail found
            simp only [decide_eq_true_eq]
            omega
          rw [List.filter_cons_of_pos (by simpa using head), none]
          rfl
      | succ offset =>
          rw [List.filter_cons_of_neg (by simp only [head, decide_eq_true_eq]; omega),
            List.getElem?_cons_succ, ← ih tail, Nat.add_right_comm]
          rfl

namespace NumberedFrom

/-! ## Difficulties by number -/

theorem epochDifficulty_eq (numbered : relay.NumberedFrom first) (epoch : Epoch) :
    relay.epochDifficulty epoch =
      if epoch.toNat < first then .error (RelayStateError.epochBeforeGenesis epoch)
      else
        match relay.epochs[epoch.toNat - first]? with
        | some record => .ok record.difficulty
        | none => .error (RelayStateError.epochNotProven epoch) := by
  unfold epochDifficulty
  cases records : relay.epochs with
  | nil => exact absurd records numbered.ready
  | cons genesis later =>
      have isFirst : relay.epochs[0]? = some genesis := by rw [records, List.getElem?_cons_zero]
      have number : genesis.epoch.toNat = first := numbered.number isFirst
      simp only [UInt32.lt_iff_toNat_lt, number]
      split
      next => rfl
      next reached =>
        have notBefore : genesis.epoch ≤ epoch := UInt32.le_iff_toNat_le.mpr (by omega)
        have position : (epoch - genesis.epoch).toNat = epoch.toNat - first := by
          rw [UInt32.toNat_sub_of_le _ _ notBefore, number]
        exact position ▸ rfl

theorem epochDifficulty_eq_before_iff (numbered : relay.NumberedFrom first) {told : Epoch} :
    relay.epochDifficulty epoch = .error (RelayStateError.epochBeforeGenesis told) ↔
      epoch.toNat < first ∧ told = epoch := by
  rw [numbered.epochDifficulty_eq]
  split
  next early => simp [early, eq_comm]
  next reached =>
    simp only [reached, false_and, iff_false]
    split <;> simp

theorem epochDifficulty_eq_behind_iff (numbered : relay.NumberedFrom first) {told : Epoch} :
    relay.epochDifficulty epoch = .error (RelayStateError.epochNotProven told) ↔
      first + relay.epochs.length ≤ epoch.toNat ∧ told = epoch := by
  rw [numbered.epochDifficulty_eq]
  split
  next early =>
    have : ¬first + relay.epochs.length ≤ epoch.toNat := by omega
    simp [this]
  next reached =>
    split
    next record found =>
      obtain ⟨inside, _⟩ := List.getElem?_eq_some_iff.mp found
      have : ¬first + relay.epochs.length ≤ epoch.toNat := by omega
      simp [this]
    next missing =>
      have outside := List.getElem?_eq_none_iff.mp missing
      have : first + relay.epochs.length ≤ epoch.toNat := by omega
      simp [this, eq_comm]

/-- A relay tells the difficulty of a record when asked for its number. -/
theorem epochDifficulty_of_found (numbered : relay.NumberedFrom first)
    (found : relay.epochs[index]? = some record) :
    relay.epochDifficulty record.epoch = .ok record.difficulty := by
  have number := numbered.number found
  have position : record.epoch.toNat - first = index := by omega
  rw [numbered.epochDifficulty_eq, if_neg (by omega), position, found]

/-! ## The range in numbers -/

theorem exists_ends (numbered : relay.NumberedFrom first) :
    ∃ genesis current : EpochRecord,
      relay.range = (Epoch.start genesis.epoch, Height.up (Epoch.start current.epoch) 2015) ∧
        genesis.epoch.toNat = first ∧
        current.epoch.toNat + 1 = first + relay.epochs.length := by
  obtain ⟨genesis, isFirst⟩ : ∃ genesis, relay.epochs.head? = some genesis := by
    rw [← Option.isSome_iff_exists, List.isSome_head?]
    exact numbered.ready
  obtain ⟨current, isLast⟩ : ∃ current, relay.epochs.getLast? = some current := by
    rw [← Option.isSome_iff_exists, List.getLast?_isSome]
    exact numbered.ready
  refine ⟨genesis, current, ?_, ?_, ?_⟩
  · simp only [range, isFirst, isLast, Epoch.length]
  · exact numbered.number (List.head?_eq_getElem?.symm.trans isFirst)
  · have number := numbered.number (List.getLast?_eq_getElem?.symm.trans isLast)
    have := List.length_pos_of_ne_nil numbered.ready
    omega

theorem range_fst_le_iff (numbered : relay.NumberedFrom first) :
    relay.range.1 ≤ height ↔ first ≤ height.toNat / 2016 := by
  obtain ⟨genesis, current, range, number, _⟩ := numbered.exists_ends
  have begins := numbered.begins
  rw [range, UInt32.le_iff_toNat_le, Epoch.toNat_start, number]
  omega

/-- Behind the last height of the range there is none of a known epoch, and if that
height is the largest one there is none at all. -/
theorem le_range_snd_iff (numbered : relay.NumberedFrom first) :
    height ≤ relay.range.2 ↔ height.toNat / 2016 < first + relay.epochs.length := by
  obtain ⟨genesis, current, range, _, number⟩ := numbered.exists_ends
  have := height.toNat_lt
  rw [range, UInt32.le_iff_toNat_le, Height.toNat_up, Epoch.toNat_start]
  omega

end NumberedFrom

/-! ## Agreement -/

/-- The answers of a relay about difficulties, measured against its records and the
range of heights that it tells. -/
structure AnswersAlike (relay : EpochRelay) : Prop where
  before : ∀ height epoch,
    relay.blockDifficulty height = .error (RelayStateError.epochBeforeGenesis epoch) ↔
      height < relay.range.1 ∧ epoch.toNat = height.toNat / 2016
  behind : ∀ height epoch,
    relay.blockDifficulty height = .error (RelayStateError.epochNotProven epoch) ↔
      relay.range.2 < height ∧ epoch.toNat = height.toNat / 2016
  /-- In between, there is one record with the number of the epoch. -/
  within : ∀ height, relay.range.1 ≤ height → height ≤ relay.range.2 →
    ∃ record,
      relay.epochs.filter (fun other => other.epoch.toNat = height.toNat / 2016) = [record] ∧
        relay.blockDifficulty height = .ok record.difficulty
  current : ∃ last, relay.currentEpoch? = some last ∧
    relay.epochDifficulty last = .ok relay.currentDifficulty
  previous : ∀ last, relay.currentEpoch? = some last →
    if relay.epochs.length = 1 then relay.previousDifficulty = 0
    else ∃ before : Epoch, before.toNat + 1 = last.toNat ∧
      relay.epochDifficulty before = .ok relay.previousDifficulty

theorem NumberedFrom.answersAlike (numbered : relay.NumberedFrom first) : relay.AnswersAlike where
  before := by
    intro height epoch
    rw [blockDifficulty, numbered.epochDifficulty_eq_before_iff, Epoch.toNat_ofHeight,
      ← UInt32.not_le, numbered.range_fst_le_iff, Nat.not_le, ← UInt32.toNat_inj,
      Epoch.toNat_ofHeight]
  behind := by
    intro height epoch
    rw [blockDifficulty, numbered.epochDifficulty_eq_behind_iff, Epoch.toNat_ofHeight,
      ← UInt32.not_le, numbered.le_range_snd_iff, Nat.not_lt, ← UInt32.toNat_inj,
      Epoch.toNat_ofHeight]
  within := by
    intro height reached known
    rw [numbered.range_fst_le_iff] at reached
    rw [numbered.le_range_snd_iff] at known
    obtain ⟨offset, number⟩ := Nat.exists_eq_add_of_le reached
    have inside : offset < relay.epochs.length := by omega
    have found := List.getElem?_eq_getElem inside
    refine ⟨relay.epochs[offset], ?_, ?_⟩
    · rw [number, filter_epoch_eq numbered.number, found]
      rfl
    · have same : Epoch.ofHeight height = relay.epochs[offset].epoch := by
        rw [← UInt32.toNat_inj, Epoch.toNat_ofHeight, number, numbered.number found]
      rw [blockDifficulty, same, numbered.epochDifficulty_of_found found]
  current := by
    obtain ⟨older, current, records⟩ :=
      (List.eq_nil_or_concat' relay.epochs).resolve_left numbered.ready
    have found : relay.epochs[older.length]? = some current := by
      rw [records, List.getElem?_concat_length]
    refine ⟨current.epoch, ?_, ?_⟩
    · rw [currentEpoch?, records, List.getLast?_concat, Option.map_some]
    · rw [numbered.epochDifficulty_of_found found, currentDifficulty_of_last records]
  previous := by
    intro last isLast
    obtain ⟨older, current, records⟩ :=
      (List.eq_nil_or_concat' relay.epochs).resolve_left numbered.ready
    rw [currentEpoch?, records, List.getLast?_concat, Option.map_some] at isLast
    obtain rfl := Option.some.inj isLast
    rw [previousDifficulty_of_last records]
    rcases List.eq_nil_or_concat' older with rfl | ⟨oldest, previous, rfl⟩
    · rw [if_pos (by rw [records]; rfl)]
      rfl
    · have foundPrevious : relay.epochs[oldest.length]? = some previous := by
        simp [records]
      have foundCurrent : relay.epochs[oldest.length + 1]? = some current := by
        simp [records]
      have number := numbered.number foundPrevious
      have next := numbered.number foundCurrent
      rw [if_neg (by simp [records]), List.getLast?_concat]
      exact ⟨previous.epoch, by omega, numbered.epochDifficulty_of_found foundPrevious⟩

/-- In every run that is not too long, what a ready relay tells about difficulties
agrees at all heights with its records and with the range that it tells, also where
the range ends with the heights and the last epoch does not. -/
theorem queries_agree_at_every_height (initial : start.IsInitial) (calls : List Call)
    (few : (start.accepted calls).countP Call.isRetarget < 2 ^ 31)
    (reached : start.run calls = relay) (ready : relay.isReady = true) :
    relay.AnswersAlike := by
  subst reached
  have recorded := recorded_run initial calls
  have chronicle := chronicle (lawful_run initial calls) recorded few
  obtain ⟨first, numbered⟩ := chronicle.exists_numberedFrom recorded (isReady_iff.mp ready)
  exact numbered.answersAlike

/-- Genesis in the last epoch that begins at a height, and two retargets. -/
def lateCalls : List Call :=
  [.genesis "governance" easyHeader.encode 4294967040 1, .retarget "anyone" usedChain,
    .retarget "anyone" (Header.encodeChain [harderHeader, easedHeader])]

/-- Two epochs behind the largest height are on record. -/
theorem testRelay_answers_at_largest_height :
    (testRelay.run lateCalls).epochs.map EpochRecord.epoch = [2130440, 2130441, 2130442] ∧
      (testRelay.run lateCalls).range = (4294967040, Height.last) ∧
      (testRelay.run lateCalls).AnswersAlike := by
  have initial : testRelay.IsInitial := .new _ _
  obtain ⟨numbers, range, few, ready⟩ :
      (testRelay.run lateCalls).epochs.map EpochRecord.epoch = [2130440, 2130441, 2130442] ∧
        (testRelay.run lateCalls).range = (4294967040, Height.last) ∧
        (testRelay.accepted lateCalls).countP Call.isRetarget < 2 ^ 31 ∧
        (testRelay.run lateCalls).isReady = true := by decide +kernel
  exact ⟨numbers, range, queries_agree_at_every_height initial lateCalls few rfl ready⟩

end HeaderRelay.EpochRelay
