import HeaderRelay.Proofs.EpochRelay.Records
import HeaderRelay.Proofs.Header.Verdict

/-!
# When a retarget succeeds

A retarget is checked in three places: who submits it, what its targets are, and
whether its headers are a valid chain for the difficulties before and after.  Seen
from outside there is one list of conditions on the bytes that are submitted, and
difficulties do not occur in it.  They need not, because every record has the
difficulty of its target: headers that all have the recorded target on one side of
the boundary, and the new one on the other, have just the two difficulties that the
last check asks for.
-/

namespace HeaderRelay

/-- Whether a record is about the epoch that a header opens after another epoch. -/
structure EpochRecord.IsOpenedBy (record : EpochRecord) (constants : Network.Constants)
    (current : EpochRecord) (boundary : Header) : Prop where
  epoch : record.epoch.toNat = current.epoch.toNat + 1
  target : record.target = boundary.target
  difficulty : record.difficulty.toNat = constants.reference.toNat / boundary.target.toNat
  timestamp : record.timestamp = boundary.time

namespace EpochRelay

variable {relay start : EpochRelay} {submitter : String} {bytes : Bytes} {current : EpochRecord}
  {headers : List Header} {boundary : Header} {past : List Call}

/-- What is asked of a retarget: of the relay, of the submitter and of the headers that
the bytes are. -/
structure Warrants (relay : EpochRelay) (submitter : String) (bytes : Bytes)
    (current : EpochRecord) (headers : List Header) (boundary : Header) : Prop where
  ready : relay.epochs.getLast? = some current
  allowed : relay.authorizationRequired = false ∨ submitter ∈ relay.authorized
  decoded : Header.decodeChain bytes = .ok headers
  counted : headers.length = 2 * relay.proofLength
  /-- There is one target before the boundary and one from there on. -/
  old : ∀ header ∈ headers.take relay.proofLength, header.target = current.target
  at_boundary : headers[relay.proofLength]? = some boundary
  new : ∀ header ∈ headers.drop relay.proofLength, header.target = boundary.target
  changed : boundary.target ≠ current.target
  oldNonzero : current.target ≠ 0
  newNonzero : boundary.target ≠ 0
  lower : current.target.toNat / 4 ≤ boundary.target.toNat
  upper : boundary.target.toNat ≤ 4 * current.target.toNat
  later : current.timestamp.toNat < boundary.time.toNat
  continuous : ∀ {index lower upper}, headers[index]? = some lower →
    headers[index + 1]? = some upper → upper.previous = Hash.double lower.encode
  works : ∀ header ∈ headers, header.MeetsTarget

/-! ## Difficulties -/

theorem difficulty_of_isMeasured {constants : Network.Constants} {record : EpochRecord}
    (measured : record.IsMeasured constants) :
    record.difficulty = record.target.difficulty constants.reference :=
  BitVec.eq_of_toNat_eq (measured.trans (Target.toNat_difficulty _ _).symm)

/-- Headers that have the targets of two epochs have their difficulties. -/
theorem Straddles.ordered {constants : Network.Constants} {proofLength : Nat}
    (straddles : Straddles proofLength current headers boundary)
    (measured : current.IsMeasured constants) :
    (∀ header ∈ headers.take proofLength, header.difficulty constants = current.difficulty) ∧
      ∀ header ∈ headers.drop proofLength,
        header.difficulty constants = boundary.difficulty constants := by
  constructor
  · intro header member
    rw [difficulty_of_isMeasured measured, Header.difficulty, straddles.old header member]
  · intro header member
    rw [Header.difficulty, straddles.new header member, Header.difficulty]

theorem Straddles.admits {constants : Network.Constants} {proofLength : Nat}
    (straddles : Straddles proofLength current headers boundary)
    (measured : current.IsMeasured constants) :
    EpochDifficulties.Admits constants ⟨current.difficulty, boundary.difficulty constants⟩
      headers :=
  .inr (EpochDifficulties.splits_map_iff.mpr ⟨proofLength, straddles.ordered measured⟩)

/-! ## Conditions -/

theorem maySubmit_iff :
    relay.MaySubmit submitter ↔
      relay.authorizationRequired = false ∨ submitter ∈ relay.authorized := by
  rw [MaySubmit, isAuthorized, List.contains_iff_mem, imp_iff_not_or, Bool.not_eq_true]

theorem warrants_iff (lawful : relay.Lawful) :
    relay.Warrants submitter bytes current headers boundary ↔
      relay.epochs.getLast? = some current ∧ relay.MaySubmit submitter ∧
        Header.decodeChain bytes = .ok headers ∧ headers.length = 2 * relay.proofLength ∧
        Straddles relay.proofLength current headers boundary ∧
        ∃ validated, ValidatedChain.ofHeaders relay.constants
          ⟨current.difficulty, boundary.difficulty relay.constants⟩ headers = .ok validated := by
  rw [ValidatedChain.exists_ofHeaders_eq_ok_iff, maySubmit_iff]
  constructor
  · intro warrants
    have straddles : Straddles relay.proofLength current headers boundary :=
      ⟨warrants.old, warrants.at_boundary, warrants.new, warrants.changed,
        Target.mayBecome_iff.mpr ⟨warrants.oldNonzero, warrants.newNonzero, warrants.lower,
          warrants.upper⟩, warrants.later⟩
    have measured := lawful.measured current (List.mem_of_getLast? warrants.ready)
    exact ⟨warrants.ready, warrants.allowed, warrants.decoded, warrants.counted, straddles,
      List.ne_nil_of_mem (List.mem_of_getElem? warrants.at_boundary), warrants.continuous,
      warrants.works, .inr ⟨relay.proofLength, straddles.ordered measured⟩⟩
  · rintro ⟨ready, allowed, decoded, counted, straddles, acceptable⟩
    obtain ⟨oldNonzero, newNonzero, lower, upper⟩ := Target.mayBecome_iff.mp straddles.clamped
    exact ⟨ready, allowed, decoded, counted, straddles.old, straddles.at_boundary, straddles.new,
      straddles.changed, oldNonzero, newNonzero, lower, upper, straddles.later,
      acceptable.continuous, acceptable.works⟩

theorem step_retarget_eq_ok_iff {next : EpochRelay} {answer : Answer} :
    relay.step (.retarget submitter bytes) = (next, .ok answer) ↔
      ∃ difficulty, relay.retarget submitter bytes = .ok (next, difficulty) ∧
        .difficulty difficulty = answer := by
  rw [step]
  split
  next extended difficulty retargeted => simp [retargeted, and_assoc]
  next error failed => simp [failed]

/-! ## Effect -/

/-- Epoch numbers stay in range while there were few retargets. -/
theorem Chronicle.epoch_lt (chronicle : relay.Chronicle past) (recorded : relay.Recorded past)
    (few : past.countP Call.isRetarget < 2 ^ 31) (last : relay.epochs.getLast? = some current) :
    current.epoch.toNat + 1 < UInt32.size := by
  have ready := epochs_ne_nil_of_last last
  have count := recorded.count
  rw [recorded.started, if_neg ready] at count
  obtain ⟨_, _, height, _, member⟩ := recorded.exists_genesis ready
  rw [List.getLast?_eq_getElem?] at last
  have number := chronicle.numbered member last
  have := height.toNat_lt
  simp only [UInt32.size]
  omega

theorem isOpenedBy_successor {constants : Network.Constants}
    (inRange : current.epoch.toNat + 1 < UInt32.size) (nonzero : boundary.target ≠ 0) :
    (successor constants current boundary).IsOpenedBy constants current boundary where
  epoch := by
    rw [successor, UInt32.toNat_add, UInt32.toNat_one]
    exact Nat.mod_eq_of_lt inRange
  target := rfl
  difficulty := (Target.toNat_difficulty _ _).trans (if_neg nonzero)
  timestamp := rfl

theorem Warrants.step_eq (warrants : relay.Warrants submitter bytes current headers boundary)
    (lawful : relay.Lawful) (inRange : current.epoch.toNat + 1 < UInt32.size) :
    ∃ record : EpochRecord, record.IsOpenedBy relay.constants current boundary ∧
      relay.step (.retarget submitter bytes) =
        ({ relay with
            epochs := relay.epochs ++ [record]
            events := relay.events ++ [.retarget current.difficulty record.difficulty] },
          .ok (.difficulty record.difficulty)) := by
  obtain ⟨ready, allowed, decoded, counted, straddles, valid⟩ := (warrants_iff lawful).mp warrants
  have retargeted := retarget_eq_ok_iff.mpr
    ⟨current, headers, boundary, ready, allowed, decoded, counted, straddles, valid, rfl, rfl⟩
  exact ⟨successor relay.constants current boundary,
    isOpenedBy_successor inRange warrants.newNonzero,
    step_retarget_eq_ok_iff.mpr ⟨_, retargeted, rfl⟩⟩

/-! ## Refusals -/

theorem blamesDifficulty_of_nextRecord {constants : Network.Constants} {proofLength : Nat}
    {error : Error} (failed : nextRecord constants proofLength current headers = .error error) :
    error.blamesDifficulty = false := by
  unfold nextRecord at failed
  split at failed
  next =>
    cases failed
    rfl
  next =>
    split at failed
    next =>
      cases failed
      rfl
    next =>
      dsimp only at failed
      split at failed
      next =>
        cases failed
        rfl
      next =>
        split at failed
        next =>
          cases failed
          rfl
        next => cases failed

theorem blamesDifficulty_of_retarget (lawful : relay.Lawful) {error : Error}
    (failed : relay.retarget submitter bytes = .error error) :
    error.blamesDifficulty = false := by
  unfold retarget at failed
  rcases Checks.bind_eq_error_iff.mp failed with unready | ⟨current, last, failed⟩
  · unfold latest at unready
    split at unready <;> cases unready
    rfl
  rcases Checks.bind_eq_error_iff.mp failed with unauthorized | ⟨_, _, failed⟩
  · unfold requireSubmitter at unauthorized
    split at unauthorized <;> cases unauthorized
    rfl
  rcases Checks.bind_eq_error_iff.mp failed with undecoded | ⟨headers, _, failed⟩
  · obtain ⟨cause, _, rfl⟩ := Checks.mapError_eq_error_iff.mp undecoded
    rfl
  rcases Checks.refusal_eq_error_iff.mp failed with ⟨_, rfl⟩ | ⟨_, failed⟩
  · rfl
  rcases Checks.bind_eq_error_iff.mp failed with unchanged | ⟨record, told, failed⟩
  · exact blamesDifficulty_of_nextRecord unchanged
  rcases Checks.bind_eq_error_iff.mp failed with invalid | ⟨_, _, failed⟩
  · obtain ⟨boundary, straddles, rfl⟩ := nextRecord_eq_ok_iff.mp told
    have measured := lawful.measured current (List.mem_of_getLast? (latest_eq_ok_iff.mp last))
    exact ValidatedChain.blamesDifficulty_of_admits (straddles.admits measured) invalid
  · cases failed

/-- A retarget succeeds exactly if it is warranted. Then there is one more record, of the
epoch that the boundary header opens, and one more event, and nothing else is changed. A
retarget that fails changes nothing, and never fails for the difficulty of a header. -/
theorem retargets_are_judged_exactly (initial : start.IsInitial) (calls : List Call)
    (few : (start.accepted calls).countP Call.isRetarget < 2 ^ 31) {relay : EpochRelay}
    (reached : start.run calls = relay) (submitter : String) (bytes : Bytes) :
    ((∃ answer, (relay.step (.retarget submitter bytes)).2 = .ok answer) ↔
        ∃ current headers boundary, relay.Warrants submitter bytes current headers boundary) ∧
      (∀ current headers boundary, relay.Warrants submitter bytes current headers boundary →
        ∃ record : EpochRecord, record.IsOpenedBy relay.constants current boundary ∧
          relay.step (.retarget submitter bytes) =
            ({ relay with
                epochs := relay.epochs ++ [record]
                events := relay.events ++ [.retarget current.difficulty record.difficulty] },
              .ok (.difficulty record.difficulty))) ∧
      ∀ error, (relay.step (.retarget submitter bytes)).2 = .error error →
        (relay.step (.retarget submitter bytes)).1 = relay ∧ error.blamesDifficulty = false := by
  have lawful := lawful_run initial calls
  have recorded := recorded_run initial calls
  have chronicle := chronicle lawful recorded few
  rw [reached] at lawful recorded chronicle
  have effect (current headers boundary)
      (warrants : relay.Warrants submitter bytes current headers boundary) :=
    warrants.step_eq lawful (chronicle.epoch_lt recorded few warrants.ready)
  refine ⟨⟨?_, ?_⟩, effect, ?_⟩
  · rintro ⟨answer, answered⟩
    obtain ⟨difficulty, retargeted, _⟩ := step_retarget_eq_ok_iff.mp (Prod.ext rfl answered)
    obtain ⟨current, headers, boundary, ready, allowed, decoded, counted, straddles, valid, _⟩ :=
      retarget_eq_ok_iff.mp retargeted
    exact ⟨current, headers, boundary,
      (warrants_iff lawful).mpr ⟨ready, allowed, decoded, counted, straddles, valid⟩⟩
  · rintro ⟨current, headers, boundary, warrants⟩
    obtain ⟨record, _, answered⟩ := effect current headers boundary warrants
    exact ⟨_, congrArg Prod.snd answered⟩
  · intro error failed
    refine ⟨step_fst_of_error failed, ?_⟩
    rw [step] at failed
    split at failed
    next => cases failed
    next cause refused =>
      cases failed
      exact blamesDifficulty_of_retarget lawful refused

/-- Genesis at the first boundary, with one header on either side of the next one. -/
def firstCalls : List Call :=
  [.genesis "governance" easyHeader.encode 2016 1]

/-- The target may be halved, but not by headers that do not belong together. -/
theorem testRelay_judges_retargets :
    (∃ current headers boundary, (testRelay.run firstCalls).Warrants "anyone"
        (Header.encodeChain [easyHeader, harderHeader]) current headers boundary) ∧
      (∃ record : EpochRecord, record.difficulty = 2 ∧
        ((testRelay.run firstCalls).step (.retarget "anyone"
          (Header.encodeChain [easyHeader, harderHeader]))).1.epochs =
            (testRelay.run firstCalls).epochs ++ [record]) ∧
      ¬∃ current headers boundary, (testRelay.run firstCalls).Warrants "anyone"
        (Header.encodeChain [harderHeader, harderHeader]) current headers boundary := by
  have initial : testRelay.IsInitial := .new _ _
  have few : (testRelay.accepted firstCalls).countP Call.isRetarget < 2 ^ 31 := by decide +kernel
  obtain ⟨accepted_iff, effect, _⟩ := retargets_are_judged_exactly initial firstCalls few rfl
    "anyone" (Header.encodeChain [easyHeader, harderHeader])
  obtain ⟨other_iff, _, _⟩ := retargets_are_judged_exactly initial firstCalls few rfl
    "anyone" (Header.encodeChain [harderHeader, harderHeader])
  have answered : ((testRelay.run firstCalls).step (.retarget "anyone"
      (Header.encodeChain [easyHeader, harderHeader]))).2 = .ok (.difficulty 2) := by
    decide +kernel
  have refused : ((testRelay.run firstCalls).step (.retarget "anyone"
      (Header.encodeChain [harderHeader, harderHeader]))).2 =
        .error (ConsensusError.wrongOldTarget 0) := by
    decide +kernel
  have warranted := accepted_iff.mp ⟨_, answered⟩
  refine ⟨warranted, ?_, ?_⟩
  · obtain ⟨current, headers, boundary, warrants⟩ := warranted
    obtain ⟨record, opened, stepped⟩ := effect current headers boundary warrants
    rw [stepped] at answered
    exact ⟨record, Answer.difficulty.inj (Except.ok.inj answered), by rw [stepped]⟩
  · rw [← other_iff]
    rintro ⟨answer, accepted⟩
    cases refused.symm.trans accepted

end EpochRelay

end HeaderRelay
