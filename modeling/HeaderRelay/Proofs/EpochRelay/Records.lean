import HeaderRelay.Proofs.EpochRelay.Operations
import HeaderRelay.Proofs.Height
import HeaderRelay.Proofs.Target

/-!
# The records of an epoch relay

The records of a relay form one growing list.  Every record follows from the one
before it, its difficulty is that of its target, and no operation takes a record
away or changes it.  None of this depends on who calls what, in which order, or
on the calls that fail.

Epoch numbers are 32-bit words.  They are consecutive as words in every run, and
as numbers as long as the run is too short for them to leave the range.
-/

namespace HeaderRelay

namespace EpochRecord

/-- What a record owes to the one before it. -/
structure Follows (previous next : EpochRecord) : Prop where
  number : next.epoch = previous.epoch + 1
  younger : previous.timestamp < next.timestamp
  nonzero : next.target ≠ 0
  changed : next.target ≠ previous.target
  lower : previous.target.toNat / 4 ≤ next.target.toNat
  upper : next.target.toNat ≤ 4 * previous.target.toNat

/-- Whether the difficulty of a record is that of its target, rounded down. -/
def IsMeasured (constants : Network.Constants) (record : EpochRecord) : Prop :=
  record.difficulty.toNat =
    if record.target = 0 then 2 ^ 256 - 1
    else constants.reference.toNat / record.target.toNat

end EpochRecord

namespace EpochRelay

variable {relay next : EpochRelay} {call : Call}

theorem follows_successor {constants : Network.Constants} {proofLength : Nat}
    {current : EpochRecord} {headers : List Header} {boundary : Header}
    (straddles : Straddles proofLength current headers boundary) :
    current.Follows (successor constants current boundary) := by
  obtain ⟨_, nonzero, lower, upper⟩ := Target.mayBecome_iff.mp straddles.clamped
  exact ⟨rfl, straddles.later, nonzero, straddles.changed, lower, upper⟩

theorem epochs_ne_nil_of_last {record : EpochRecord}
    (last : relay.epochs.getLast? = some record) : relay.epochs ≠ [] := by
  rintro fresh
  simp [fresh] at last

/-! ## The invariant -/

/-- What the records and the proof length satisfy at all times. -/
structure Lawful (relay : EpochRelay) : Prop where
  history : relay.epochs.IsChain EpochRecord.Follows
  measured : ∀ record ∈ relay.epochs, record.IsMeasured relay.constants
  proofLength :
    if relay.epochs = [] then relay.proofLength = 0
    else 0 < relay.proofLength ∧ relay.proofLength < Epoch.length

theorem IsInitial.epochs (initial : relay.IsInitial) : relay.epochs = [] := by
  cases initial <;> rfl

theorem IsInitial.lawful (initial : relay.IsInitial) : relay.Lawful := by
  refine ⟨?_, ?_, ?_⟩
  · simp [initial.epochs]
  · simp [initial.epochs]
  · cases initial <;> rfl

theorem Lawful.of_succeeds (lawful : relay.Lawful) (succeeds : relay.Succeeds call next) :
    next.Lawful := by
  obtain ⟨history, measured, proofLength⟩ := lawful
  cases succeeds with
  | genesis governed fresh decoded boundary bounded =>
      refine ⟨.singleton _, ?_, by simpa using bounded⟩
      intro record member
      obtain rfl := List.mem_singleton.mp member
      exact Target.toNat_difficulty _ _
  | @retarget submitter bytes current headers boundary last allowed decoded counted straddles
      valid =>
      have ready := epochs_ne_nil_of_last last
      refine ⟨?_, ?_, ?_⟩
      · apply history.append (.singleton _)
        intro previous isLast record isNew
        obtain rfl : current = previous := Option.some.inj (last.symm.trans isLast)
        obtain rfl : successor relay.constants current boundary = record :=
          Option.some.inj isNew
        exact follows_successor straddles
      · intro record member
        rcases List.mem_append.mp member with old | new
        · exact measured record old
        · obtain rfl := List.mem_singleton.mp new
          exact Target.toNat_difficulty _ _
      · simpa [ready] using proofLength
  | setProofLength governed ready bounded changed =>
      exact ⟨history, measured, by simpa [ready] using bounded⟩
  | setAuthorizationRequired | authorize | deauthorize | takeEvents | query =>
      exact ⟨history, measured, proofLength⟩

theorem lawful_run {start : EpochRelay} (initial : start.IsInitial) (calls : List Call) :
    (start.run calls).Lawful :=
  run_induction (fun relay _ => relay.Lawful) initial.lawful
    (fun lawful succeeds => lawful.of_succeeds succeeds) calls

/-! ## Records and calls -/

/-- How the number of records and the number of the first epoch come from the
calls that succeeded. -/
structure Recorded (relay : EpochRelay) (past : List Call) : Prop where
  count : relay.epochs.length = past.countP Call.isGenesis + past.countP Call.isRetarget
  started : past.countP Call.isGenesis = if relay.epochs = [] then 0 else 1
  first : ∀ {caller bytes height length}, Call.genesis caller bytes height length ∈ past →
    ∀ record ∈ relay.epochs.head?, record.epoch = Epoch.ofHeight height

theorem Recorded.of_unchanged {past : List Call} (recorded : relay.Recorded past)
    (unchanged : next.epochs = relay.epochs) (noGenesis : call.isGenesis = false)
    (noRetarget : call.isRetarget = false) : next.Recorded (past ++ [call]) := by
  obtain ⟨count, started, first⟩ := recorded
  refine ⟨by simpa [unchanged, noGenesis, noRetarget] using count,
    by simpa [unchanged, noGenesis] using started, ?_⟩
  intro caller bytes height length member
  rw [unchanged]
  rcases List.mem_append.mp member with old | new
  · exact first old
  · obtain rfl := List.mem_singleton.mp new
    cases noGenesis

theorem Recorded.of_succeeds {past : List Call} (recorded : relay.Recorded past)
    (succeeds : relay.Succeeds call next) : next.Recorded (past ++ [call]) := by
  cases succeeds with
  | @genesis caller bytes height length header governed fresh decoded boundary bounded =>
      obtain ⟨count, started, _⟩ := recorded
      simp only [fresh, List.length_nil, if_true] at count started
      refine ⟨by simp [Call.isGenesis, Call.isRetarget]; omega,
        by simp [Call.isGenesis, started], ?_⟩
      intro otherCaller otherBytes otherHeight otherLength member record isFirst
      rcases List.mem_append.mp member with old | new
      · -- No genesis came before, since there were no records.
        have none := List.countP_eq_zero.mp started _ old
        exact absurd rfl none
      · cases List.mem_singleton.mp new
        cases isFirst
        rfl
  | @retarget submitter bytes current headers boundary last allowed decoded counted straddles
      valid =>
      obtain ⟨count, started, first⟩ := recorded
      have ready := epochs_ne_nil_of_last last
      refine ⟨by simp [Call.isGenesis, Call.isRetarget]; omega,
        by simpa [Call.isGenesis, ready] using started, ?_⟩
      intro otherCaller otherBytes otherHeight otherLength member record isFirst
      rcases List.mem_append.mp member with old | new
      · apply first old record
        rwa [List.head?_append_of_ne_nil _ ready] at isFirst
      · cases List.mem_singleton.mp new
  | setProofLength | setAuthorizationRequired | authorize | deauthorize | takeEvents =>
      exact recorded.of_unchanged rfl rfl rfl
  | query asked =>
      exact recorded.of_unchanged rfl (Call.isGenesis_of_isQuery asked)
        (Call.isRetarget_of_isQuery asked)

theorem recorded_run {start : EpochRelay} (initial : start.IsInitial) (calls : List Call) :
    (start.run calls).Recorded (start.accepted calls) :=
  run_induction Recorded
    ⟨by simp [initial.epochs], by simp [initial.epochs], by simp⟩
    (fun recorded succeeds => recorded.of_succeeds succeeds) calls

/-- Records come from a genesis. -/
theorem Recorded.exists_genesis {past : List Call} (recorded : relay.Recorded past)
    (ready : relay.epochs ≠ []) :
    ∃ caller bytes height length, Call.genesis caller bytes height length ∈ past := by
  obtain ⟨call, member, isGenesis⟩ : ∃ call ∈ past, Call.isGenesis call = true := by
    rw [← List.countP_pos_iff, recorded.started, if_neg ready]
    exact Nat.one_pos
  cases call with
  | genesis caller bytes height length => exact ⟨caller, bytes, height, length, member⟩
  | _ => cases isGenesis

/-! ## Growth -/

/-- Whether the records of a relay are those of an earlier one, or one more. -/
def Extends (next relay : EpochRelay) : Prop :=
  next.epochs = relay.epochs ∨ ∃ record, next.epochs = relay.epochs ++ [record]

theorem Extends.epochs_isPrefix (extends_ : next.Extends relay) : relay.epochs <+: next.epochs := by
  rcases extends_ with same | ⟨record, grown⟩
  · exact same ▸ List.prefix_rfl
  · exact grown ▸ List.prefix_append _ _

theorem Succeeds.extends (succeeds : relay.Succeeds call next) : next.Extends relay := by
  cases succeeds with
  | genesis governed fresh => exact .inr ⟨_, by rw [fresh, List.nil_append]⟩
  | retarget => exact .inr ⟨_, rfl⟩
  | setProofLength | setAuthorizationRequired | authorize | deauthorize | takeEvents | query =>
      exact .inl rfl

/-- No call takes a record away, changes one or adds more than one. -/
theorem step_extends (relay : EpochRelay) (call : Call) :
    (relay.step call).1.Extends relay := by
  cases answered : (relay.step call).2 with
  | ok answer => exact (succeeds_of_step answered).extends
  | error error => exact .inl (congrArg epochs (step_fst_of_error answered))

theorem epochs_prefix_run (relay : EpochRelay) (calls : List Call) :
    relay.epochs <+: (relay.run calls).epochs := by
  induction calls generalizing relay with
  | nil => exact List.prefix_rfl
  | cons call rest ih => exact (relay.step_extends call).epochs_isPrefix.trans (ih _)

theorem epochDifficulty_eq_ok_iff {epoch : Epoch} {difficulty : Difficulty} :
    relay.epochDifficulty epoch = .ok difficulty ↔
      ∃ genesis record, relay.epochs.head? = some genesis ∧ genesis.epoch ≤ epoch ∧
        relay.epochs[(epoch - genesis.epoch).toNat]? = some record ∧
        record.difficulty = difficulty := by
  unfold epochDifficulty
  cases records : relay.epochs with
  | nil => simp
  | cons genesis later =>
      simp only [List.head?_cons, Option.some.injEq, exists_and_left, exists_eq_left']
      split
      next early => simp [UInt32.not_le.mpr early]
      next reached =>
        simp only [UInt32.not_lt.mp reached, true_and]
        split <;> simp_all

/-- A relay with more records knows the difficulties that it knew before. -/
theorem epochDifficulty_of_prefix (grown : relay.epochs <+: next.epochs) {epoch : Epoch}
    {difficulty : Difficulty} (known : relay.epochDifficulty epoch = .ok difficulty) :
    next.epochDifficulty epoch = .ok difficulty := by
  obtain ⟨genesis, record, first, reached, found, measured⟩ :=
    epochDifficulty_eq_ok_iff.mp known
  obtain ⟨added, grown⟩ := grown
  refine epochDifficulty_eq_ok_iff.mpr ⟨genesis, record, ?_, reached, ?_, measured⟩
  · rw [← grown, List.head?_append, first, Option.some_or]
  · obtain ⟨inside, rfl⟩ := List.getElem?_eq_some_iff.mp found
    rw [← grown, List.getElem?_append_left inside, List.getElem?_eq_getElem inside]

/-! ## The history in numbers -/

theorem Lawful.follows (lawful : relay.Lawful) {index : Nat} {previous record : EpochRecord}
    (older : relay.epochs[index]? = some previous)
    (newer : relay.epochs[index + 1]? = some record) : previous.Follows record := by
  obtain ⟨_, rfl⟩ := List.getElem?_eq_some_iff.mp older
  obtain ⟨inside, rfl⟩ := List.getElem?_eq_some_iff.mp newer
  exact lawful.history.getElem index inside

theorem Lawful.timestamps_increase (lawful : relay.Lawful) :
    relay.epochs.Pairwise fun earlier later => earlier.timestamp < later.timestamp := by
  have increasing : (relay.epochs.map EpochRecord.timestamp).IsChain (· < ·) :=
    (List.isChain_map _).mpr (lawful.history.imp fun _ _ follows => follows.younger)
  exact List.pairwise_map.mp increasing.pairwise

/-- The number of a record is that of the first one and its position, while the
sum is in range. -/
theorem Lawful.epoch_toNat (lawful : relay.Lawful) {first : EpochRecord}
    (isFirst : relay.epochs.head? = some first) {index : Nat} {record : EpochRecord}
    (found : relay.epochs[index]? = some record)
    (inRange : first.epoch.toNat + index < UInt32.size) :
    record.epoch.toNat = first.epoch.toNat + index := by
  induction index generalizing record with
  | zero =>
      rw [← List.head?_eq_getElem?, isFirst] at found
      cases found
      rfl
  | succ index ih =>
      obtain ⟨inside, _⟩ := List.getElem?_eq_some_iff.mp found
      have older : relay.epochs[index]? = some relay.epochs[index] :=
        List.getElem?_eq_getElem (by omega)
      have number := (lawful.follows older found).number
      rw [number, UInt32.toNat_add, ih older (by omega)]
      simp only [UInt32.toNat_one]
      unfold UInt32.size at inRange
      omega

/-- The history that a relay keeps, accounted for by the calls that succeeded. -/
structure Chronicle (relay : EpochRelay) (past : List Call) : Prop where
  /-- Genesis succeeded once if the relay is ready, and never if it is not. -/
  started : past.countP Call.isGenesis = if relay.isReady then 1 else 0
  /-- The epoch numbers count up from the epoch of the genesis height. -/
  numbered : ∀ {caller bytes height length}, Call.genesis caller bytes height length ∈ past →
    ∀ {index record}, relay.epochs[index]? = some record →
      record.epoch.toNat = height.toNat / 2016 + index
  increasing : relay.epochs.Pairwise fun earlier later => earlier.timestamp < later.timestamp
  measured : ∀ record ∈ relay.epochs, record.IsMeasured relay.constants
  /-- Every record but the first has a target that a retarget may lead to. -/
  retargeted : ∀ {index previous record}, relay.epochs[index]? = some previous →
    relay.epochs[index + 1]? = some record →
      record.target ≠ 0 ∧ record.target ≠ previous.target ∧
        previous.target.toNat / 4 ≤ record.target.toNat ∧
        record.target.toNat ≤ 4 * previous.target.toNat
  proofLength :
    if relay.isReady then 1 ≤ relay.proofLength ∧ relay.proofLength ≤ 2015
    else relay.proofLength = 0

theorem chronicle {past : List Call} (lawful : relay.Lawful) (recorded : relay.Recorded past)
    (few : past.countP Call.isRetarget < 2 ^ 31) : relay.Chronicle past where
  started := by
    rw [recorded.started]
    simp [isReady]
  numbered := by
    intro caller bytes height length member index record found
    obtain ⟨inside, _⟩ := List.getElem?_eq_some_iff.mp found
    obtain ⟨first, isFirst⟩ : ∃ first, relay.epochs.head? = some first := by
      rw [← Option.isSome_iff_exists, List.isSome_head?]
      exact List.ne_nil_of_length_pos (by omega)
    have first_toNat : first.epoch.toNat = height.toNat / 2016 := by
      rw [recorded.first member first isFirst]
      exact Epoch.toNat_ofHeight height
    have short : relay.epochs.length ≤ 1 + past.countP Call.isRetarget := by
      have atMostOne : past.countP Call.isGenesis ≤ 1 := by
        rw [recorded.started]
        split <;> omega
      have := recorded.count
      omega
    rw [← first_toNat]
    apply lawful.epoch_toNat isFirst found
    have := height.toNat_lt
    simp only [UInt32.size]
    omega
  increasing := lawful.timestamps_increase
  measured := lawful.measured
  retargeted := fun older newer =>
    have follows := lawful.follows older newer
    ⟨follows.nonzero, follows.changed, follows.lower, follows.upper⟩
  proofLength := by
    have bounded := lawful.proofLength
    simp only [Epoch.length] at bounded
    by_cases fresh : relay.epochs = []
    · simpa [isReady, fresh] using bounded
    · simp only [fresh, if_false] at bounded
      simp only [isReady_iff.mpr fresh, if_true]
      omega

/-- In every run, whoever makes the calls and whichever of them fail, the records
form one history: numbers in sequence, later times, difficulties measured,
targets within the bounds of a retarget. A call leaves the records as they are or
adds one, so that a difficulty once known is told ever after. -/
theorem run_keeps_history {start : EpochRelay} (initial : start.IsInitial) (calls : List Call)
    (few : (start.accepted calls).countP Call.isRetarget < 2 ^ 31) :
    (start.run calls).Chronicle (start.accepted calls) ∧
      (∀ call, ((start.run calls).step call).1.Extends (start.run calls)) ∧
      ∀ later epoch difficulty, (start.run calls).epochDifficulty epoch = .ok difficulty →
        (start.run (calls ++ later)).epochDifficulty epoch = .ok difficulty := by
  refine ⟨chronicle (lawful_run initial calls) (recorded_run initial calls) few,
    step_extends _, ?_⟩
  intro later epoch difficulty known
  rw [run_append]
  exact epochDifficulty_of_prefix (epochs_prefix_run _ later) known

/-- A header with the easiest target of the test network. -/
def easyHeader : Header :=
  .easy .zero 0

/-- A header on top of it, with half the target. -/
def harderHeader : Header :=
  ⟨1, easyHeader.hash, .zero, 2, 0x203FFFFF, 11⟩

/-- A relay of the test network before genesis. -/
def testRelay : EpochRelay where
  constants := Network.regtest.constants
  governance := "governance"

/-- Genesis and a retarget, both of them tried twice. -/
def testCalls : List Call :=
  [.genesis "governance" easyHeader.encode 2016 1, .genesis "governance" easyHeader.encode 4032 2,
    .retarget "anyone" (Header.encodeChain [easyHeader, harderHeader]),
    .retarget "anyone" (Header.encodeChain [easyHeader, harderHeader])]

theorem testRelay_keeps_history :
    (testRelay.accepted testCalls).countP Call.isRetarget = 1 ∧
      (testRelay.run testCalls).epochs.map EpochRecord.epoch = [1, 2] ∧
      (testRelay.run testCalls).Chronicle (testRelay.accepted testCalls) ∧
      (∀ call, ((testRelay.run testCalls).step call).1.Extends (testRelay.run testCalls)) ∧
      ∀ later epoch difficulty,
        (testRelay.run testCalls).epochDifficulty epoch = .ok difficulty →
          (testRelay.run (testCalls ++ later)).epochDifficulty epoch = .ok difficulty := by
  have initial : testRelay.IsInitial := .new _ _
  have once : (testRelay.accepted testCalls).countP Call.isRetarget = 1 := by decide +kernel
  refine ⟨once, by decide +kernel, ?_⟩
  exact run_keeps_history initial testCalls (by rw [once]; decide)

end EpochRelay

end HeaderRelay
