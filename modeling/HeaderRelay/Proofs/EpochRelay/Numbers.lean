import HeaderRelay.Proofs.EpochRelay.Replay

/-!
# Epoch numbers stay in range

Nothing bounds the number of retargets, so the number of an epoch might outgrow its
word.  The clock prevents it.  A retarget adds one to the number and at least one to
the time, and times are words of the same size: as long as the number of the first
epoch is not ahead of the time of its header, no later number is ahead of the time of
its record.  A retarget that succeeds has a boundary header younger than the last
record, so there is still a word above the time of that record, and with it one above
its number.
-/

namespace HeaderRelay

namespace EpochRecord

variable {previous next record : EpochRecord}

/-- Whether the number of an epoch is not ahead of the time of its first block. -/
def IsInTime (record : EpochRecord) : Prop :=
  record.epoch.toNat ≤ record.timestamp.toNat

theorem Follows.epoch_lt (follows : previous.Follows next) (inTime : previous.IsInTime) :
    previous.epoch.toNat + 1 < UInt32.size := by
  have younger := UInt32.lt_iff_toNat_lt.mp follows.younger
  have bounded : next.timestamp.toNat < UInt32.size := next.timestamp.toNat_lt
  unfold IsInTime at inTime
  omega

theorem Follows.epoch_toNat (follows : previous.Follows next) (inTime : previous.IsInTime) :
    next.epoch.toNat = previous.epoch.toNat + 1 := by
  rw [follows.number, Height.toNat_succ]
  exact Nat.mod_eq_of_lt (follows.epoch_lt inTime)

theorem Follows.isInTime (follows : previous.Follows next) (inTime : previous.IsInTime) :
    next.IsInTime := by
  have younger := UInt32.lt_iff_toNat_lt.mp follows.younger
  rw [IsInTime, follows.epoch_toNat inTime]
  unfold IsInTime at inTime
  omega

end EpochRecord

namespace EpochRelay

variable {relay next start : EpochRelay} {call : Call} {past rest : List Call}
  {submitter : String} {chain : Bytes}

/-- Whether a history starts from a header whose time is at least the number of the
epoch that it opens. -/
def StartsInTime (past : List Call) : Prop :=
  ∀ caller bytes height length header, Call.genesis caller bytes height length ∈ past →
    Header.decode bytes = .ok header → height.toNat / 2016 ≤ header.time.toNat

theorem StartsInTime.of_append (inTime : StartsInTime (past ++ rest)) : StartsInTime past := by
  intro caller bytes height length header member
  exact inTime caller bytes height length header (List.mem_append_left rest member)

/-! ## One call -/

/-- A retarget that succeeds adds one record, which follows from the last one. -/
theorem Succeeds.exists_follower (succeeds : relay.Succeeds (.retarget submitter chain) next) :
    ∃ current record, relay.epochs.getLast? = some current ∧
      next.epochs = relay.epochs ++ [record] ∧ current.Follows record := by
  cases succeeds with
  | retarget last _ _ _ straddles =>
      exact ⟨_, _, last, rfl, follows_successor straddles⟩
  | query asked => cases asked

/-- If the records are in time, and the first one if there is to be one, they are so
after a call that succeeds. -/
theorem Succeeds.isInTime (succeeds : relay.Succeeds call next) (starts : StartsInTime [call])
    (inTime : ∀ record ∈ relay.epochs, record.IsInTime) :
    ∀ record ∈ next.epochs, record.IsInTime := by
  cases succeeds with
  | @genesis caller bytes height length header _ _ decoded =>
      intro record member
      obtain rfl := List.mem_singleton.mp member
      have early := starts caller bytes height length header List.mem_cons_self decoded
      rw [EpochRecord.IsInTime, genesisRecord, Epoch.toNat_ofHeight]
      exact early
  | @retarget _ _ current _ _ last _ _ _ straddles =>
      intro record member
      rcases List.mem_append.mp member with old | new
      · exact inTime record old
      · obtain rfl := List.mem_singleton.mp new
        exact (follows_successor straddles).isInTime (inTime current (List.mem_of_getLast? last))
  | setProofLength | setAuthorizationRequired | authorize | deauthorize | takeEvents | query =>
      exact inTime

/-! ## Runs -/

theorem isInTime_run (initial : start.IsInitial) (calls : List Call) :
    StartsInTime (start.accepted calls) →
      ∀ record ∈ (start.run calls).epochs, record.IsInTime := by
  apply run_induction (fun relay past => StartsInTime past →
    ∀ record ∈ relay.epochs, record.IsInTime)
  · intro _
    simp [initial.epochs]
  · intro relay next past call inTime succeeds starts
    apply succeeds.isInTime _ (inTime starts.of_append)
    intro caller bytes height length header member
    exact starts caller bytes height length header (List.mem_append_right past member)

/-- In every run that starts in time, however long it is, no epoch has a number ahead
of its time, and whenever a retarget succeeds the number of the last epoch has a
successor, which is the number of the epoch that is added. -/
theorem epoch_numbers_never_overflow (initial : start.IsInitial) (calls : List Call)
    (starts : StartsInTime (start.accepted calls)) :
    (∀ record ∈ (start.run calls).epochs,
        record.epoch.toNat ≤ record.timestamp.toNat) ∧
      ∀ before submitter chain after answer,
        calls = before ++ .retarget submitter chain :: after →
        ((start.run before).step (.retarget submitter chain)).2 = .ok answer →
        ∃ current record,
          (start.run before).epochs.getLast? = some current ∧
          (start.run (before ++ [.retarget submitter chain])).epochs =
            (start.run before).epochs ++ [record] ∧
          current.epoch.toNat + 1 < 2 ^ 32 ∧
          record.epoch.toNat = current.epoch.toNat + 1 := by
  refine ⟨isInTime_run initial calls starts, ?_⟩
  rintro before submitter chain after answer rfl answered
  rw [accepted_append] at starts
  obtain ⟨current, record, last, grown, follows⟩ := (succeeds_of_step answered).exists_follower
  have inTime := isInTime_run initial before starts.of_append current
    (List.mem_of_getLast? last)
  refine ⟨current, record, last, ?_, follows.epoch_lt inTime, follows.epoch_toNat inTime⟩
  rw [run_append, run_cons, run_nil]
  exact grown

/-- Genesis with a header whose time is just the number of its epoch, and retargets that
each move the clock by one. -/
def closeCalls : List Call :=
  [.genesis "governance" easyHeader.encode 2016 1, .retarget "anyone" usedChain,
    .retarget "anyone" (Header.encodeChain [harderHeader, easedHeader])]

theorem testRelay_numbers_keep_pace :
    (testRelay.run closeCalls).epochs.map EpochRecord.epoch = [1, 2, 3] ∧
      (testRelay.run closeCalls).epochs.map EpochRecord.timestamp = [1, 2, 3] ∧
      StartsInTime (testRelay.accepted closeCalls) ∧
      (∀ record ∈ (testRelay.run closeCalls).epochs,
        record.epoch.toNat ≤ record.timestamp.toNat) ∧
      ∃ current record,
        (testRelay.run (closeCalls.take 2)).epochs.getLast? = some current ∧
        (testRelay.run closeCalls).epochs =
          (testRelay.run (closeCalls.take 2)).epochs ++ [record] ∧
        current.epoch.toNat + 1 < 2 ^ 32 ∧
        record.epoch.toNat = current.epoch.toNat + 1 := by
  have initial : testRelay.IsInitial := .new _ _
  obtain ⟨numbers, times, allAccepted, decoded, answered⟩ :
      (testRelay.run closeCalls).epochs.map EpochRecord.epoch = [1, 2, 3] ∧
        (testRelay.run closeCalls).epochs.map EpochRecord.timestamp = [1, 2, 3] ∧
        testRelay.accepted closeCalls = closeCalls ∧
        Header.decode easyHeader.encode = .ok easyHeader ∧
        ((testRelay.run (closeCalls.take 2)).step
          (.retarget "anyone" (Header.encodeChain [harderHeader, easedHeader]))).2 =
            .ok (.difficulty 1) := by decide +kernel
  have starts : StartsInTime (testRelay.accepted closeCalls) := by
    rw [allAccepted]
    intro caller bytes height length header member read
    simp only [closeCalls, List.mem_cons, Call.genesis.injEq, reduceCtorEq, List.not_mem_nil,
      or_self, or_false] at member
    obtain ⟨rfl, rfl, rfl, rfl⟩ := member
    cases decoded.symm.trans read
    decide
  obtain ⟨inTime, retargets⟩ := epoch_numbers_never_overflow initial closeCalls starts
  exact ⟨numbers, times, starts, inTime,
    retargets (closeCalls.take 2) _ _ [] _ rfl answered⟩

end EpochRelay

end HeaderRelay
