import HeaderRelay.EpochRelay.Run
import HeaderRelay.Proofs.Header.Chain
import HeaderRelay.Proofs.Runs

/-!
# What the operations of an epoch relay do

For every operation, when it succeeds and what it leaves behind.  The operations
that change a relay are gathered in one relation, `Succeeds`, so that an
invariant needs one case for each of them and never looks into their checks.
-/

namespace HeaderRelay.EpochRelay

variable {relay next : EpochRelay}

/-! ## Checks -/

theorem latest_eq_ok_iff {record : EpochRecord} :
    relay.latest = .ok record ↔ relay.epochs.getLast? = some record := by
  unfold latest
  split <;> simp_all

theorem requireGovernance_eq_ok_iff {caller : String} :
    relay.requireGovernance caller = .ok () ↔ caller = relay.governance := by
  unfold requireGovernance
  split <;> simp_all

/-- Whether somebody may retarget. -/
def MaySubmit (relay : EpochRelay) (submitter : String) : Prop :=
  relay.authorizationRequired = true → relay.isAuthorized submitter = true

theorem requireSubmitter_eq_ok_iff {submitter : String} :
    relay.requireSubmitter submitter = .ok () ↔ relay.MaySubmit submitter := by
  unfold requireSubmitter MaySubmit
  split <;> simp_all

theorem checkProofLength_eq_ok_iff {length : Nat} :
    checkProofLength length = .ok () ↔ 0 < length ∧ length < Epoch.length := by
  unfold checkProofLength
  split <;> simp_all <;> omega

theorem isReady_iff : relay.isReady = true ↔ relay.epochs ≠ [] := by
  simp [isReady]

/-! ## Operations -/

theorem genesis_eq_ok_iff {caller : String} {bytes : Bytes} {height : Height} {length : Nat} :
    relay.genesis caller bytes height length = .ok next ↔
      caller = relay.governance ∧ relay.epochs = [] ∧
        ∃ header, Header.decode bytes = .ok header ∧ Epoch.startsAt height = true ∧
          (0 < length ∧ length < Epoch.length) ∧
          { relay with
            epochs := [genesisRecord relay.constants header height]
            proofLength := length
            events := relay.events ++ [.genesis height] } = next := by
  unfold genesis
  simp only [Checks.bind_eq_ok_iff, Checks.refusal_eq_ok_iff, Checks.mapError_eq_ok_iff,
    Checks.pure_eq_ok_iff, requireGovernance_eq_ok_iff, checkProofLength_eq_ok_iff, isReady_iff,
    not_not, log, Checks.exists_unit_iff, Bool.not_eq_true', Bool.not_eq_false]
  constructor
  · intro succeeded
    rcases succeeded with ⟨governed, fresh, header, decoded, boundary, bounded, rfl⟩
    exact ⟨governed, fresh, header, decoded, boundary, bounded, by simp [fresh]⟩
  · intro conditions
    rcases conditions with ⟨governed, fresh, header, decoded, boundary, bounded, rfl⟩
    exact ⟨governed, fresh, header, decoded, boundary, bounded, by simp [fresh]⟩

theorem setProofLength_eq_ok_iff {caller : String} {length : Nat} :
    relay.setProofLength caller length = .ok next ↔
      caller = relay.governance ∧ relay.epochs ≠ [] ∧ (0 < length ∧ length < Epoch.length) ∧
        length ≠ relay.proofLength ∧
        { relay with
          proofLength := length
          events := relay.events ++ [.proofLengthChanged length] } = next := by
  unfold setProofLength
  simp only [Checks.bind_eq_ok_iff, Checks.refusal_eq_ok_iff, Checks.exists_unit_iff,
    Checks.pure_eq_ok_iff, requireGovernance_eq_ok_iff, checkProofLength_eq_ok_iff,
    latest_eq_ok_iff, log]
  rw [← List.getLast?_isSome, Option.isSome_iff_exists]
  tauto

/-- A change that asks for nothing but the governance. -/
theorem governed_eq_ok_iff {caller : String} {changed : EpochRelay} :
    (do relay.requireGovernance caller; return changed) = .ok next ↔
      caller = relay.governance ∧ changed = next := by
  simp only [Checks.bind_eq_ok_iff, Checks.exists_unit_iff, Checks.pure_eq_ok_iff,
    requireGovernance_eq_ok_iff]

theorem setAuthorizationRequired_eq_ok_iff {caller : String} {required : Bool} :
    relay.setAuthorizationRequired caller required = .ok next ↔
      caller = relay.governance ∧
        { relay with
          authorizationRequired := required
          events := relay.events ++ [.authorizationRequirementChanged required] } = next :=
  governed_eq_ok_iff

theorem authorize_eq_ok_iff {caller submitter : String} :
    relay.authorize caller submitter = .ok next ↔
      caller = relay.governance ∧
        { relay with
          authorized := relay.authorized.insert submitter
          events := relay.events ++ [.submitterAuthorized submitter] } = next :=
  governed_eq_ok_iff

theorem deauthorize_eq_ok_iff {caller submitter : String} :
    relay.deauthorize caller submitter = .ok next ↔
      caller = relay.governance ∧
        { relay with
          authorized := relay.authorized.filter (· ≠ submitter)
          events := relay.events ++ [.submitterDeauthorized submitter] } = next :=
  governed_eq_ok_iff

/-- A chain that leads out of the epoch of a record: as many headers as the proof
length have its target, and from the boundary header on they have another one
that the epoch may go over to. -/
structure Straddles (proofLength : Nat) (current : EpochRecord) (headers : List Header)
    (boundary : Header) : Prop where
  old : ∀ header ∈ headers.take proofLength, header.target = current.target
  at_boundary : headers[proofLength]? = some boundary
  new : ∀ header ∈ headers.drop proofLength, header.target = boundary.target
  changed : boundary.target ≠ current.target
  clamped : current.target.mayBecome boundary.target = true
  later : current.timestamp < boundary.time

/-- The record of the epoch that a boundary header opens. -/
def successor (constants : Network.Constants) (current : EpochRecord) (boundary : Header) :
    EpochRecord where
  epoch := current.epoch + 1
  target := boundary.target
  difficulty := boundary.difficulty constants
  timestamp := boundary.time

theorem findIdx?_target_eq_none_iff {headers : List Header} {target : Target} :
    headers.findIdx? (fun header => header.target ≠ target) = none ↔
      ∀ header ∈ headers, header.target = target := by
  simp [List.findIdx?_eq_none_iff]

theorem nextRecord_eq_ok_iff {constants : Network.Constants} {proofLength : Nat}
    {current record : EpochRecord} {headers : List Header} :
    nextRecord constants proofLength current headers = .ok record ↔
      ∃ boundary, Straddles proofLength current headers boundary ∧
        successor constants current boundary = record := by
  constructor
  · intro told
    unfold nextRecord at told
    split at told
    next => cases told
    next noOther =>
      split at told
      next => cases told
      next boundary rest dropped =>
        dsimp only at told
        split at told
        next => cases told
        next noOtherNew =>
          split at told
          next => cases told
          next passed =>
            cases told
            simp only [Bool.or_eq_true, decide_eq_true_eq, Bool.not_eq_true', not_or,
              Bool.not_eq_false, UInt32.not_le] at passed
            obtain ⟨⟨changed, clamped⟩, later⟩ := passed
            refine ⟨boundary, ⟨findIdx?_target_eq_none_iff.mp noOther, ?_, ?_, changed,
              clamped, later⟩, rfl⟩
            · rw [← List.head?_drop, dropped, List.head?_cons]
            · rw [dropped]
              exact findIdx?_target_eq_none_iff.mp noOtherNew
  · intro conditions
    rcases conditions with ⟨boundary, straddles, rfl⟩
    have dropped : headers.drop proofLength = boundary :: headers.drop (proofLength + 1) := by
      obtain ⟨inside, rfl⟩ := List.getElem?_eq_some_iff.mp straddles.at_boundary
      exact List.drop_eq_getElem_cons inside
    have new := straddles.new
    rw [dropped] at new
    simp only [nextRecord, findIdx?_target_eq_none_iff.mpr straddles.old, dropped,
      findIdx?_target_eq_none_iff.mpr new]
    simp [straddles.changed, straddles.clamped, UInt32.not_le.mpr straddles.later, successor]

theorem retarget_eq_ok_iff {submitter : String} {bytes : Bytes} {difficulty : Difficulty} :
    relay.retarget submitter bytes = .ok (next, difficulty) ↔
      ∃ current headers boundary,
        relay.epochs.getLast? = some current ∧ relay.MaySubmit submitter ∧
        Header.decodeChain bytes = .ok headers ∧ headers.length = 2 * relay.proofLength ∧
        Straddles relay.proofLength current headers boundary ∧
        (∃ validated, ValidatedChain.ofHeaders relay.constants
          ⟨current.difficulty, boundary.difficulty relay.constants⟩ headers = .ok validated) ∧
        { relay with
          epochs := relay.epochs ++ [successor relay.constants current boundary]
          events := relay.events ++
            [.retarget current.difficulty (boundary.difficulty relay.constants)] } = next ∧
        boundary.difficulty relay.constants = difficulty := by
  unfold retarget
  simp only [Checks.bind_eq_ok_iff, Checks.refusal_eq_ok_iff, Checks.exists_unit_iff,
    Checks.mapError_eq_ok_iff, Checks.pure_eq_ok_iff, latest_eq_ok_iff,
    requireSubmitter_eq_ok_iff, nextRecord_eq_ok_iff, not_not, log, Prod.mk.injEq]
  constructor
  · intro succeeded
    rcases succeeded with ⟨current, last, allowed, headers, decoded, counted, _,
      ⟨boundary, straddles, rfl⟩, validated, valid, changed, told⟩
    exact ⟨current, headers, boundary, last, allowed, decoded, counted, straddles,
      ⟨validated, valid⟩, changed, told⟩
  · intro conditions
    rcases conditions with ⟨current, headers, boundary, last, allowed, decoded, counted, straddles,
      ⟨validated, valid⟩, changed, told⟩
    exact ⟨current, last, allowed, headers, decoded, counted, _, ⟨boundary, straddles, rfl⟩,
      validated, valid, changed, told⟩

/-! ## Calls -/

namespace Call

/-- Whether a call starts the history. -/
def isGenesis : Call → Bool
  | .genesis .. => true
  | _ => false

/-- Whether a call adds an epoch to the history. -/
def isRetarget : Call → Bool
  | .retarget .. => true
  | _ => false

/-- Whether a call only asks. -/
def isQuery : Call → Bool
  | .genesis .. | .retarget .. | .setProofLength .. | .setAuthorizationRequired ..
  | .authorize .. | .deauthorize .. | .takeEvents => false
  | _ => true

/-- Who makes a call that may change what a relay knows or permits. Everybody may
ask and take the log. -/
def caller? : Call → Option String
  | .genesis caller _ _ _ => some caller
  | .retarget submitter _ => some submitter
  | .setProofLength caller _ => some caller
  | .setAuthorizationRequired caller _ => some caller
  | .authorize caller _ => some caller
  | .deauthorize caller _ => some caller
  | _ => none

theorem caller?_of_isQuery {call : Call} (query : call.isQuery = true) :
    call.caller? = none := by
  cases call with
  | genesis | retarget | setProofLength | setAuthorizationRequired | authorize | deauthorize =>
      cases query
  | _ => rfl

theorem isGenesis_of_isQuery {call : Call} (query : call.isQuery = true) :
    call.isGenesis = false := by
  cases call with
  | genesis => cases query
  | _ => rfl

theorem isRetarget_of_isQuery {call : Call} (query : call.isQuery = true) :
    call.isRetarget = false := by
  cases call with
  | retarget => cases query
  | _ => rfl

end Call

/-- What a call that succeeds does to a relay, and on which grounds. -/
inductive Succeeds (relay : EpochRelay) : Call → EpochRelay → Prop where
  | genesis {caller : String} {bytes : Bytes} {height : Height} {length : Nat}
      {header : Header} (governed : caller = relay.governance) (fresh : relay.epochs = [])
      (decoded : Header.decode bytes = .ok header) (boundary : Epoch.startsAt height = true)
      (bounded : 0 < length ∧ length < Epoch.length) :
      Succeeds relay (.genesis caller bytes height length)
        { relay with
          epochs := [genesisRecord relay.constants header height]
          proofLength := length
          events := relay.events ++ [.genesis height] }
  | retarget {submitter : String} {bytes : Bytes} {current : EpochRecord}
      {headers : List Header} {boundary : Header}
      (last : relay.epochs.getLast? = some current) (allowed : relay.MaySubmit submitter)
      (decoded : Header.decodeChain bytes = .ok headers)
      (counted : headers.length = 2 * relay.proofLength)
      (straddles : Straddles relay.proofLength current headers boundary)
      (valid : ∃ validated, ValidatedChain.ofHeaders relay.constants
        ⟨current.difficulty, boundary.difficulty relay.constants⟩ headers = .ok validated) :
      Succeeds relay (.retarget submitter bytes)
        { relay with
          epochs := relay.epochs ++ [successor relay.constants current boundary]
          events := relay.events ++
            [.retarget current.difficulty (boundary.difficulty relay.constants)] }
  | setProofLength {caller : String} {length : Nat} (governed : caller = relay.governance)
      (ready : relay.epochs ≠ []) (bounded : 0 < length ∧ length < Epoch.length)
      (changed : length ≠ relay.proofLength) :
      Succeeds relay (.setProofLength caller length)
        { relay with
          proofLength := length
          events := relay.events ++ [.proofLengthChanged length] }
  | setAuthorizationRequired {caller : String} {required : Bool}
      (governed : caller = relay.governance) :
      Succeeds relay (.setAuthorizationRequired caller required)
        { relay with
          authorizationRequired := required
          events := relay.events ++ [.authorizationRequirementChanged required] }
  | authorize {caller submitter : String} (governed : caller = relay.governance) :
      Succeeds relay (.authorize caller submitter)
        { relay with
          authorized := relay.authorized.insert submitter
          events := relay.events ++ [.submitterAuthorized submitter] }
  | deauthorize {caller submitter : String} (governed : caller = relay.governance) :
      Succeeds relay (.deauthorize caller submitter)
        { relay with
          authorized := relay.authorized.filter (· ≠ submitter)
          events := relay.events ++ [.submitterDeauthorized submitter] }
  | takeEvents : Succeeds relay .takeEvents { relay with events := [] }
  | query {call : Call} (asked : call.isQuery = true) : Succeeds relay call relay

theorem change_eq_ok {result : Except Error EpochRelay} {answer : Answer}
    (answered : (relay.change result).2 = .ok answer) :
    result = .ok (relay.change result).1 := by
  cases result with
  | ok changed => rfl
  | error error => cases answered

theorem change_fst_of_error {result : Except Error EpochRelay} {error : Error}
    (failed : (relay.change result).2 = .error error) : (relay.change result).1 = relay := by
  cases result with
  | ok changed => cases failed
  | error error => rfl

/-- A call that succeeds does what `Succeeds` says. -/
theorem succeeds_of_step {call : Call} {answer : Answer}
    (answered : (relay.step call).2 = .ok answer) :
    relay.Succeeds call (relay.step call).1 := by
  cases call with
  | genesis caller bytes height length =>
      obtain ⟨governed, fresh, header, decoded, boundary, bounded, changed⟩ :=
        genesis_eq_ok_iff.mp (change_eq_ok answered)
      exact changed ▸ .genesis governed fresh decoded boundary bounded
  | retarget submitter bytes =>
      simp only [step] at answered ⊢
      split at answered
      next extended difficulty retargeted =>
        obtain ⟨current, headers, boundary, last, allowed, decoded, counted, straddles, valid,
          changed, _⟩ := retarget_eq_ok_iff.mp retargeted
        exact changed ▸ .retarget last allowed decoded counted straddles valid
      next => cases answered
  | setProofLength caller length =>
      obtain ⟨governed, ready, bounded, different, changed⟩ :=
        setProofLength_eq_ok_iff.mp (change_eq_ok answered)
      exact changed ▸ .setProofLength governed ready bounded different
  | setAuthorizationRequired caller required =>
      obtain ⟨governed, changed⟩ :=
        setAuthorizationRequired_eq_ok_iff.mp (change_eq_ok answered)
      exact changed ▸ .setAuthorizationRequired governed
  | authorize caller submitter =>
      obtain ⟨governed, changed⟩ := authorize_eq_ok_iff.mp (change_eq_ok answered)
      exact changed ▸ .authorize governed
  | deauthorize caller submitter =>
      obtain ⟨governed, changed⟩ := deauthorize_eq_ok_iff.mp (change_eq_ok answered)
      exact changed ▸ .deauthorize governed
  | takeEvents => exact .takeEvents
  | validateChain | verifyProof | isAuthorized | epochDifficulty | blockDifficulty
  | currentDifficulty | previousDifficulty | epochDifficulties | epochs =>
      exact .query rfl

/-- A call that fails changes nothing. -/
theorem step_fst_of_error {call : Call} {error : Error}
    (failed : (relay.step call).2 = .error error) : (relay.step call).1 = relay := by
  cases call with
  | genesis | setProofLength | setAuthorizationRequired | authorize | deauthorize =>
      exact change_fst_of_error failed
  | retarget submitter bytes =>
      simp only [step] at failed ⊢
      split at failed
      next => cases failed
      next => rfl
  | takeEvents => cases failed
  | validateChain | verifyProof | isAuthorized | epochDifficulty | blockDifficulty
  | currentDifficulty | previousDifficulty | epochDifficulties | epochs => rfl

/-! ## Runs -/

/-- The relays before any call: one that is new, and one as configured. -/
inductive IsInitial : EpochRelay → Prop where
  | new (constants : Network.Constants) (governance : String) :
      IsInitial { constants, governance }
  | configured (config : RelayConfig) : IsInitial (ofConfig config)

/-- The calls of a list that succeed. -/
def accepted (relay : EpochRelay) (calls : List Call) : List Call :=
  Runs.accepted step relay calls

theorem accepted_append (relay : EpochRelay) (first second : List Call) :
    relay.accepted (first ++ second) =
      relay.accepted first ++ (relay.run first).accepted second :=
  Runs.accepted_append relay first second

/-- What holds at the start, with no history, and is kept by every call that
succeeds holds after every run. -/
theorem run_induction (Holds : EpochRelay → List Call → Prop) {start : EpochRelay}
    (initially : Holds start [])
    (kept : ∀ {relay next past call}, Holds relay past → relay.Succeeds call next →
      Holds next (past ++ [call]))
    (calls : List Call) : Holds (start.run calls) (start.accepted calls) :=
  Runs.holds_after
    (fun holds answered => kept holds (succeeds_of_step answered))
    (fun holds failed => by
      rw [step_fst_of_error failed]
      exact holds)
    initially calls

/-- A relay stays in its network. -/
theorem constants_run (start : EpochRelay) (calls : List Call) :
    (start.run calls).constants = start.constants := by
  apply run_induction (fun relay _ => relay.constants = start.constants) rfl
  intro relay next past call same succeeds
  cases succeeds <;> exact same

/-- A relay stays under its governance. -/
theorem governance_run (start : EpochRelay) (calls : List Call) :
    (start.run calls).governance = start.governance := by
  apply run_induction (fun relay _ => relay.governance = start.governance) rfl
  intro relay next past call same succeeds
  cases succeeds <;> exact same

end HeaderRelay.EpochRelay
