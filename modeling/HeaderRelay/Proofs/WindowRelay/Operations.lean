import HeaderRelay.Proofs.Header.Chain
import HeaderRelay.Proofs.Runs
import HeaderRelay.WindowRelay.Run

/-!
# What the operations of a window relay do

Only genesis and a batch of headers change a window relay.  This module says when
each of them succeeds and what it leaves behind.
-/

namespace HeaderRelay.WindowRelay

variable {relay next : WindowRelay} {chain : TrackedChain}

@[simp] theorem tracked_eq_ok_iff : relay.tracked = .ok chain ↔ relay.chain = some chain := by
  unfold tracked
  cases relay.chain <;> simp

theorem height_eq_ok_iff {tip : Height} :
    relay.height = .ok tip ↔ ∃ chain, relay.chain = some chain ∧ chain.tip = tip := by
  simp only [height, Checks.map_eq_ok_iff, tracked_eq_ok_iff]

theorem range_eq_ok_iff {oldest tip : Height} :
    relay.range = .ok (oldest, tip) ↔
      ∃ chain, relay.chain = some chain ∧
        max chain.genesisHeight (chain.tip.down (relay.capacity - 1)) = oldest ∧
        chain.tip = tip := by
  simp only [range, Checks.map_eq_ok_iff, tracked_eq_ok_iff, Prod.mk.injEq]

theorem isRecorded_iff {height : Height} {hash : Hash} :
    relay.isRecorded height hash = true ↔ relay.ring.recorded? height = some hash := by
  simp [isRecorded]

/-- Whether the two headers of a genesis agree. -/
def Agree (epochStart tip : Header) (height : Height) : Prop :=
  (height = Epoch.startOf height → tip = epochStart) ∧ tip.bits = epochStart.bits

theorem genesis_eq_ok_iff {caller : String} {epochStart tip : Bytes} {height : Height} :
    relay.genesis caller epochStart tip height = .ok next ↔
      caller = relay.governance ∧ relay.chain = none ∧
        ∃ startHeader tipHeader, Header.decode epochStart = .ok startHeader ∧
          Header.decode tip = .ok tipHeader ∧ Agree startHeader tipHeader height ∧
          { relay with
            ring := relay.ring.record height tipHeader.hash
            chain := some {
              genesisHeight := height
              tip := height
              epochStart := ⟨Epoch.startOf height, startHeader⟩
            } } = next := by
  unfold genesis
  simp only [Checks.bind_eq_ok_iff, Checks.refusal_eq_ok_iff, Checks.mapError_eq_ok_iff,
    Checks.pure_eq_ok_iff, not_or, not_and, not_not, Bool.not_eq_true, Option.isSome_eq_false_iff,
    Option.isNone_iff_eq_none, Agree, exists_and_left]

theorem checkHeaders_eq_ok_iff {constants : Network.Constants} {first : Height}
    {headers : List Header} {crossed : Option EpochStart} :
    checkHeaders constants chain first headers = .ok crossed ↔
      ∃ base, startFor chain first = .ok base ∧
        followTargets chain.epochStart base first 0 none headers = .ok crossed ∧
        ∃ validated, ValidatedChain.ofHeaders constants
          ⟨base.header.difficulty constants, (crossed.getD base).header.difficulty constants⟩
          headers = .ok validated := by
  unfold checkHeaders
  simp only [Checks.bind_eq_ok_iff, Checks.pure_eq_ok_iff]
  constructor
  · intro succeeded
    rcases succeeded with ⟨base, started, _, followed, validated, valid, rfl⟩
    exact ⟨base, started, followed, validated, valid⟩
  · intro conditions
    rcases conditions with ⟨base, started, followed, validated, valid⟩
    exact ⟨base, started, crossed, followed, validated, valid, rfl⟩

theorem linked_of_checkHeaders {constants : Network.Constants} {height : Height}
    {first : Header} {rest : List Header} {crossed : Option EpochStart}
    (checked : checkHeaders constants chain height (first :: rest) = .ok crossed) :
    Header.Linked (first :: rest) := by
  obtain ⟨_, _, _, _, valid⟩ := checkHeaders_eq_ok_iff.mp checked
  exact (ValidatedChain.ofHeaders_eq_ok_iff.mp valid).1

theorem addHeaders_eq_ok_iff {ancestor : Height} {bytes : Bytes} :
    relay.addHeaders ancestor bytes = .ok next ↔
      ∃ chain first added tip crossed, relay.chain = some chain ∧
        Header.decodeChain bytes = .ok (first :: added) ∧
        (first :: added).length = batchSize ∧
        relay.ring.recorded? ancestor = some first.hash ∧
        ancestor.up? (batchSize - 1) = some tip ∧ chain.tip < tip ∧
        checkHeaders relay.constants chain ancestor (first :: added) = .ok crossed ∧
        { relay with
          ring := relay.ring.recordAll (ancestor + 1) (added.map Header.hash)
          chain := some (extendTo chain tip crossed) } = next := by
  unfold addHeaders
  simp only [Checks.bind_eq_ok_iff, Checks.mapError_eq_ok_iff, tracked_eq_ok_iff]
  constructor
  · intro succeeded
    rcases succeeded with ⟨chain, tracked, headers, decoded, checked⟩
    cases headers with
    | nil => simp at checked
    | cons first added =>
        simp only [Checks.refusal_eq_ok_iff, not_not] at checked
        obtain ⟨counted, checked⟩ := checked
        split at checked
        next => simp at checked
        next recorded found =>
          simp only [Checks.refusal_eq_ok_iff, not_not] at checked
          obtain ⟨rfl, checked⟩ := checked
          split at checked
          next => simp at checked
          next tip above =>
            simp only [Checks.refusal_eq_ok_iff, Checks.bind_eq_ok_iff, Checks.pure_eq_ok_iff,
              UInt32.not_le] at checked
            obtain ⟨higher, crossed, passed, changed⟩ := checked
            exact ⟨chain, first, added, tip, crossed, tracked, decoded, counted, found, above,
              higher, passed, changed⟩
  · intro conditions
    rcases conditions with ⟨chain, first, added, tip, crossed, tracked, decoded, counted, found,
      above, higher, passed, changed⟩
    refine ⟨chain, tracked, first :: added, decoded, ?_⟩
    simp only [Checks.refusal_eq_ok_iff, counted, found, above, passed, not_not, true_and,
      UInt32.not_le.mpr higher, Checks.bind_eq_ok_iff, Checks.pure_eq_ok_iff]
    simpa using changed

/-- A validation succeeds on six headers that form a valid chain and of which the
fourth is recorded. -/
theorem validate_eq_ok_true_iff {height : Height} {bytes : Bytes} :
    relay.validate height bytes = .ok true ↔
      ∃ chain headers anchor first crossed, relay.chain = some chain ∧
        Header.decodeChain bytes = .ok headers ∧ headers.length = validationSize ∧
        headers[3]? = some anchor ∧ height.down? 3 = some first ∧
        relay.ring.recorded? height = some anchor.hash ∧
        checkHeaders relay.constants chain first headers = .ok crossed := by
  unfold validate
  simp only [Checks.bind_eq_ok_iff, Checks.mapError_eq_ok_iff, tracked_eq_ok_iff]
  constructor
  · intro succeeded
    rcases succeeded with ⟨chain, tracked, headers, decoded, checked⟩
    split at checked
    next anchor _ _ =>
      split at checked
      next first recorded down found =>
        split at checked
        next => simp at checked
        next same =>
          obtain ⟨crossed, passed, _⟩ := Checks.bind_eq_ok_iff.mp checked
          exact ⟨chain, _, anchor, first, crossed, tracked, decoded, rfl, rfl, down,
            (not_not.mp same) ▸ found, passed⟩
      next => simp at checked
    next => simp at checked
  · intro conditions
    rcases conditions with ⟨chain, headers, anchor, first, crossed, tracked, decoded, counted,
      stands, down, found, passed⟩
    refine ⟨chain, tracked, headers, decoded, ?_⟩
    rcases headers with _ | ⟨_, _ | ⟨_, _ | ⟨_, _ | ⟨_, _ | ⟨_, _ | ⟨_, _ | ⟨_, _⟩⟩⟩⟩⟩⟩⟩
    case cons.cons.cons.cons.cons.cons.nil =>
      cases stands
      simp [down, found, passed]
    -- There are no fewer headers than six, and no more.
    all_goals simp [validationSize] at counted

/-! ## Calls -/

/-- Whether a call only asks. -/
def Call.isQuery : Call → Bool
  | .genesis .. | .addHeaders .. => false
  | _ => true

/-- What a call that succeeds does to a relay, and on which grounds. -/
inductive Succeeds (relay : WindowRelay) : Call → WindowRelay → Prop where
  | genesis {caller : String} {epochStart tip : Bytes} {height : Height}
      {startHeader tipHeader : Header} (governed : caller = relay.governance)
      (fresh : relay.chain = none) (decodedStart : Header.decode epochStart = .ok startHeader)
      (decodedTip : Header.decode tip = .ok tipHeader)
      (agree : Agree startHeader tipHeader height) :
      Succeeds relay (.genesis caller epochStart tip height)
        { relay with
          ring := relay.ring.record height tipHeader.hash
          chain := some {
            genesisHeight := height
            tip := height
            epochStart := ⟨Epoch.startOf height, startHeader⟩
          } }
  | addHeaders {ancestor tip : Height} {bytes : Bytes} {chain : TrackedChain} {first : Header}
      {added : List Header} {crossed : Option EpochStart} (tracked : relay.chain = some chain)
      (decoded : Header.decodeChain bytes = .ok (first :: added))
      (counted : (first :: added).length = batchSize)
      (found : relay.ring.recorded? ancestor = some first.hash)
      (above : ancestor.up? (batchSize - 1) = some tip) (higher : chain.tip < tip)
      (passed : checkHeaders relay.constants chain ancestor (first :: added) = .ok crossed) :
      Succeeds relay (.addHeaders ancestor bytes)
        { relay with
          ring := relay.ring.recordAll (ancestor + 1) (added.map Header.hash)
          chain := some (extendTo chain tip crossed) }
  | query {call : Call} (asked : call.isQuery = true) : Succeeds relay call relay

theorem change_eq_ok {result : Except Error WindowRelay} {answer : Answer}
    (answered : (relay.change result).2 = .ok answer) :
    result = .ok (relay.change result).1 := by
  cases result with
  | ok changed => rfl
  | error error => cases answered

theorem change_fst_of_error {result : Except Error WindowRelay} {error : Error}
    (failed : (relay.change result).2 = .error error) : (relay.change result).1 = relay := by
  cases result with
  | ok changed => cases failed
  | error error => rfl

/-- A call that succeeds does what `Succeeds` says. -/
theorem succeeds_of_step {call : Call} {answer : Answer}
    (answered : (relay.step call).2 = .ok answer) :
    relay.Succeeds call (relay.step call).1 := by
  cases call with
  | genesis caller epochStart tip height =>
      obtain ⟨governed, fresh, startHeader, tipHeader, decodedStart, decodedTip, agree, changed⟩ :=
        genesis_eq_ok_iff.mp (change_eq_ok answered)
      exact changed ▸ .genesis governed fresh decodedStart decodedTip agree
  | addHeaders ancestor bytes =>
      obtain ⟨chain, first, added, tip, crossed, tracked, decoded, counted, found, above, higher,
        passed, changed⟩ := addHeaders_eq_ok_iff.mp (change_eq_ok answered)
      exact changed ▸ .addHeaders tracked decoded counted found above higher passed
  | validate | verifyProof | checkAnchored | isRecorded | areRecorded | height | epochStart
  | range | epochDifficulties | capacity =>
      exact .query rfl

/-- A call that fails changes nothing. -/
theorem step_fst_of_error {call : Call} {error : Error}
    (failed : (relay.step call).2 = .error error) : (relay.step call).1 = relay := by
  cases call with
  | genesis | addHeaders => exact change_fst_of_error failed
  | validate | verifyProof | checkAnchored | isRecorded | areRecorded | height | epochStart
  | range | epochDifficulties | capacity => rfl

/-! ## Runs -/

/-- The calls of a list that succeed. -/
def accepted (relay : WindowRelay) (calls : List Call) : List Call :=
  Runs.accepted step relay calls

/-- What holds at the start, with no history, and is kept by every call that
succeeds holds after every run. -/
theorem run_induction (Holds : WindowRelay → List Call → Prop) {start : WindowRelay}
    (initially : Holds start [])
    (kept : ∀ {relay next past call}, Holds relay past → relay.Succeeds call next →
      Holds next (past ++ [call]))
    (calls : List Call) : Holds (start.run calls) (start.accepted calls) :=
  Runs.holds_after
    (fun holds answered => kept holds (succeeds_of_step answered))
    (fun holds failed => by
      rw [step_fst_of_error failed]
      exact holds)
    initially calls

/-- A relay stays in its network. -/
theorem constants_run (start : WindowRelay) (calls : List Call) :
    (start.run calls).constants = start.constants := by
  apply run_induction (fun relay _ => relay.constants = start.constants) rfl
  intro relay next past call same succeeds
  cases succeeds <;> exact same

end HeaderRelay.WindowRelay
