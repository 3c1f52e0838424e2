import HeaderRelay.Proofs.EpochRelay.Records
import Mathlib.Data.List.Forall2
import Mathlib.Data.Set.Insert

/-!
# The event log as an account

The log of a relay may be taken at any time and then starts afresh.  Put one
after the other, what was handed out and what is still there are one list of
events.  That list misses nothing and adds nothing: it has an event for each
change, and from it and the initial settings follow the submitters, the
requirement that they are authorized, the proof length and the difficulties that
the relay went through.

One call at a time, `Succeeds.log_grows` says what a call adds to the list, and
the lemmas after it say that each field changes just as that event tells.
-/

namespace HeaderRelay

/-! ## What an event tells -/

namespace RelayEvent

def isGenesis : RelayEvent → Bool
  | .genesis _ => true
  | _ => false

/-- The difficulties before and after a retarget. -/
def retarget? : RelayEvent → Option (Difficulty × Difficulty)
  | .retarget old new => some (old, new)
  | _ => none

def proofLength? : RelayEvent → Option Nat
  | .proofLengthChanged length => some length
  | _ => none

def required? : RelayEvent → Option Bool
  | .authorizationRequirementChanged required => some required
  | _ => none

/-- The authorized submitters after an event. -/
def updateSubmitters (submitters : Set String) : RelayEvent → Set String
  | .submitterAuthorized submitter => insert submitter submitters
  | .submitterDeauthorized submitter => submitters \ {submitter}
  | _ => submitters

end RelayEvent

namespace EpochRelay

variable {relay next start : EpochRelay} {call : Call} {rest calls past : List Call}

namespace Call

/-- Whether a call changes what a relay knows or permits if it succeeds. -/
def isChange (call : Call) : Bool :=
  call.caller?.isSome

/-- The proof length that a relay is to start with. -/
def startLength? : Call → Option Nat
  | .genesis _ _ _ length => some length
  | _ => none

/-- Whether an event is about the change that a call asks for. -/
inductive Leaves : Call → RelayEvent → Prop where
  | genesis {caller : String} {header : Bytes} {height : Height} {length : Nat} :
      Leaves (.genesis caller header height length) (.genesis height)
  | retarget {submitter : String} {headers : Bytes} {old new : Difficulty} :
      Leaves (.retarget submitter headers) (.retarget old new)
  | setProofLength {caller : String} {length : Nat} :
      Leaves (.setProofLength caller length) (.proofLengthChanged length)
  | setAuthorizationRequired {caller : String} {required : Bool} :
      Leaves (.setAuthorizationRequired caller required)
        (.authorizationRequirementChanged required)
  | authorize {caller submitter : String} :
      Leaves (.authorize caller submitter) (.submitterAuthorized submitter)
  | deauthorize {caller submitter : String} :
      Leaves (.deauthorize caller submitter) (.submitterDeauthorized submitter)

/-- The events that a call adds if it succeeds and leads from one relay to another. -/
def added (relay next : EpochRelay) : Call → List RelayEvent
  | .genesis _ _ height _ => [.genesis height]
  | .retarget _ _ => [.retarget relay.currentDifficulty next.currentDifficulty]
  | .setProofLength _ length => [.proofLengthChanged length]
  | .setAuthorizationRequired _ required => [.authorizationRequirementChanged required]
  | .authorize _ submitter => [.submitterAuthorized submitter]
  | .deauthorize _ submitter => [.submitterDeauthorized submitter]
  | _ => []

theorem added_of_isQuery (asked : call.isQuery = true) : call.added relay next = [] := by
  cases call with
  | genesis | retarget | setProofLength | setAuthorizationRequired | authorize | deauthorize =>
      cases asked
  | _ => rfl

theorem startLength?_of_isQuery (asked : call.isQuery = true) : call.startLength? = none := by
  cases call with
  | genesis => cases asked
  | _ => rfl

end Call

/-! ## The trail of a run -/

/-- The events that an answer hands out. -/
def handedOut : Except Error Answer → List RelayEvent
  | .ok (.log events) => events
  | _ => []

/-- All events of a run: those handed out, whenever the log was taken, and those
left in the log. -/
def trail (start : EpochRelay) (calls : List Call) : List RelayEvent :=
  (start.trace calls).flatMap (fun result => handedOut result.2) ++ (start.run calls).events

@[simp] theorem trail_nil : relay.trail [] = relay.events := rfl

@[simp] theorem trail_cons :
    relay.trail (call :: rest) =
      handedOut (relay.step call).2 ++ (relay.step call).1.trail rest := by
  simp [trail, trace]

theorem handedOut_change (result : Except Error EpochRelay) :
    handedOut (relay.change result).2 = [] := by
  cases result <;> rfl

theorem handedOut_map {Value : Type} {answer : Value → Answer}
    (noLog : ∀ value, handedOut (.ok (answer value)) = []) (result : Except Error Value) :
    handedOut (result.map answer) = [] := by
  cases result with
  | ok value => exact noLog value
  | error error => rfl

/-- Only a call that takes the log is handed events. -/
theorem handedOut_step (notTaken : call ≠ .takeEvents) : handedOut (relay.step call).2 = [] := by
  cases call with
  | genesis | setProofLength | setAuthorizationRequired | authorize | deauthorize =>
      exact handedOut_change _
  | retarget submitter headers =>
      simp only [step]
      split <;> rfl
  | takeEvents => exact absurd rfl notTaken
  | validateChain | verifyProof | epochDifficulty | blockDifficulty | epochDifficulties =>
      exact handedOut_map (fun _ => rfl) _
  | isAuthorized | currentDifficulty | previousDifficulty | epochs => rfl

/-- What is handed out and what stays in the log are the events so far and those
that the call adds. -/
theorem log_grows {answer : Answer} (answered : (relay.step call).2 = .ok answer) :
    handedOut (relay.step call).2 ++ (relay.step call).1.events =
      relay.events ++ call.added relay (relay.step call).1 := by
  have succeeds := succeeds_of_step answered
  by_cases taken : call = .takeEvents
  · subst taken
    simp [step, takeEvents, handedOut, Call.added]
  rw [handedOut_step taken, List.nil_append]
  generalize (relay.step call).1 = next at succeeds
  cases succeeds with
  | genesis | setProofLength | setAuthorizationRequired | authorize | deauthorize => rfl
  | retarget last =>
      simp [Call.added, currentDifficulty, last, successor]
  | takeEvents => exact absurd rfl taken
  | query asked => rw [Call.added_of_isQuery asked, List.append_nil]

/-! ## What one call does -/

/-- The items of a list in pairs, each with the one after it. -/
def successive {Item : Type} (items : List Item) : List (Item × Item) :=
  items.zip items.tail

theorem successive_concat {Item : Type} {items : List Item} {last : Item}
    (isLast : items.getLast? = some last) (item : Item) :
    successive (items ++ [item]) = successive items ++ [(last, item)] := by
  induction items with
  | nil => cases isLast
  | cons first rest ih =>
      cases rest with
      | nil =>
          obtain rfl : first = last := by simpa using isLast
          rfl
      | cons second rest =>
          have remaining := ih (by simpa using isLast)
          simpa [successive] using remaining

/-- Each change adds one event of its kind, and nothing else adds any. -/
theorem Succeeds.changes (succeeds : relay.Succeeds call next) :
    List.Forall₂ Call.Leaves ([call].filter Call.isChange) (call.added relay next) := by
  cases succeeds with
  | genesis => exact .cons .genesis .nil
  | retarget => exact .cons .retarget .nil
  | setProofLength => exact .cons .setProofLength .nil
  | setAuthorizationRequired => exact .cons .setAuthorizationRequired .nil
  | authorize => exact .cons .authorize .nil
  | deauthorize => exact .cons .deauthorize .nil
  | takeEvents => exact .nil
  | query asked =>
      rw [Call.added_of_isQuery asked,
        List.filter_cons_of_neg (by simp [Call.isChange, Call.caller?_of_isQuery asked])]
      exact .nil

/-- A genesis event is added exactly when a relay becomes ready. -/
theorem Succeeds.started (succeeds : relay.Succeeds call next) :
    (call.added relay next).countP RelayEvent.isGenesis + (if relay.isReady then 1 else 0) =
      if next.isReady then 1 else 0 := by
  cases succeeds with
  | genesis _ fresh => simp [Call.added, RelayEvent.isGenesis, isReady, fresh]
  | retarget last =>
      have ready := epochs_ne_nil_of_last last
      simp [Call.added, RelayEvent.isGenesis, isReady, ready]
  | query asked => simp [Call.added_of_isQuery asked]
  | setProofLength | setAuthorizationRequired | authorize | deauthorize | takeEvents =>
      simp [Call.added, RelayEvent.isGenesis, isReady]

/-- The difficulties of a retarget event are those of the last two records. -/
theorem Succeeds.retargets (succeeds : relay.Succeeds call next) :
    successive (next.epochs.map EpochRecord.difficulty) =
      successive (relay.epochs.map EpochRecord.difficulty) ++
        (call.added relay next).filterMap RelayEvent.retarget? := by
  cases succeeds with
  | genesis _ fresh => simp [fresh, successive, Call.added, RelayEvent.retarget?]
  | @retarget _ _ current _ boundary last =>
      have isLast : (relay.epochs.map EpochRecord.difficulty).getLast? =
          some current.difficulty := by simp [last]
      rw [List.map_append, List.map_singleton, successive_concat isLast]
      simp [Call.added, RelayEvent.retarget?, currentDifficulty, last]
  | query asked => simp [Call.added_of_isQuery asked]
  | setProofLength | setAuthorizationRequired | authorize | deauthorize | takeEvents =>
      simp [Call.added, RelayEvent.retarget?]

/-- Everybody who is authorized. -/
def authorizedSet (relay : EpochRelay) : Set String :=
  {identity | relay.isAuthorized identity = true}

theorem Succeeds.authorizedSet (succeeds : relay.Succeeds call next) :
    (call.added relay next).foldl RelayEvent.updateSubmitters relay.authorizedSet =
      next.authorizedSet := by
  cases succeeds with
  | authorize | deauthorize =>
      ext identity
      simp [Call.added, RelayEvent.updateSubmitters, EpochRelay.authorizedSet, isAuthorized]
  | query asked => simp [Call.added_of_isQuery asked]
  | genesis | retarget | setProofLength | setAuthorizationRequired | takeEvents => rfl

theorem Succeeds.required (succeeds : relay.Succeeds call next) :
    ((call.added relay next).filterMap RelayEvent.required?).getLast?.getD
      relay.authorizationRequired = next.authorizationRequired := by
  cases succeeds with
  | query asked => simp [Call.added_of_isQuery asked]
  | genesis | retarget | setProofLength | setAuthorizationRequired | authorize | deauthorize
  | takeEvents => rfl

theorem Succeeds.proofLength (succeeds : relay.Succeeds call next) :
    (((call.added relay next).filterMap RelayEvent.proofLength?).getLast?.or
      call.startLength?).getD relay.proofLength = next.proofLength := by
  cases succeeds with
  | query asked =>
      simp [Call.added_of_isQuery asked, Call.startLength?_of_isQuery asked]
  | genesis | retarget | setProofLength | setAuthorizationRequired | authorize | deauthorize
  | takeEvents => rfl

/-! ## What a run tells -/

/-- What a trail says of a relay that was set up with some submitters and with or
without the requirement that they are authorized, after the calls that succeeded. -/
structure Explains (trail : List RelayEvent) (submitters : Set String) (required : Bool)
    (past : List Call) (relay : EpochRelay) : Prop where
  /-- There is one event for each change, in the order of the calls. -/
  changes : List.Forall₂ Call.Leaves (past.filter Call.isChange) trail
  started : trail.countP RelayEvent.isGenesis = if relay.isReady then 1 else 0
  /-- The retargets lead from each record to the next. -/
  retargets :
    trail.filterMap RelayEvent.retarget? = successive (relay.epochs.map EpochRecord.difficulty)
  authorized : trail.foldl RelayEvent.updateSubmitters submitters = relay.authorizedSet
  required :
    (trail.filterMap RelayEvent.required?).getLast?.getD required = relay.authorizationRequired
  /-- The proof length is the last one that was set, or else that of genesis. -/
  proofLength :
    ((trail.filterMap RelayEvent.proofLength?).getLast?.or
      (past.filterMap Call.startLength?).getLast?).getD 0 = relay.proofLength
  /-- No proof length is set before genesis. -/
  fresh : relay.isReady = false → trail.filterMap RelayEvent.proofLength? = []

variable {told : List RelayEvent} {submitters : Set String} {required : Bool}

theorem Explains.fresh_of_succeeds (explains : Explains told submitters required past relay)
    (succeeds : relay.Succeeds call next) (notReady : next.isReady = false) :
    (told ++ call.added relay next).filterMap RelayEvent.proofLength? = [] := by
  cases succeeds with
  | genesis | retarget => simp [isReady] at notReady
  | setProofLength _ ready => exact absurd notReady (by simpa [isReady] using ready)
  | query asked => simpa [Call.added_of_isQuery asked] using explains.fresh notReady
  | setAuthorizationRequired | authorize | deauthorize | takeEvents =>
      simpa [Call.added, RelayEvent.proofLength?] using explains.fresh notReady

theorem Succeeds.not_ready_of_startLength? (succeeds : relay.Succeeds call next) {length : Nat}
    (starts : call.startLength? = some length) : relay.isReady = false := by
  cases succeeds with
  | genesis _ fresh => simp [isReady, fresh]
  | query asked =>
      rw [Call.startLength?_of_isQuery asked] at starts
      cases starts
  | retarget | setProofLength | setAuthorizationRequired | authorize | deauthorize
  | takeEvents => cases starts

theorem Explains.proofLength_of_succeeds
    (explains : Explains told submitters required past relay)
    (succeeds : relay.Succeeds call next) :
    (((told ++ call.added relay next).filterMap RelayEvent.proofLength?).getLast?.or
      ((past ++ [call]).filterMap Call.startLength?).getLast?).getD 0 = next.proofLength := by
  rw [List.filterMap_append, List.filterMap_append, List.getLast?_append, List.getLast?_append,
    ← succeeds.proofLength]
  cases starts : call.startLength? with
  | none =>
      rw [Option.or_assoc, Option.getD_or, ← explains.proofLength]
      simp [starts]
  | some length =>
      -- Genesis sets the proof length whatever it was, and nothing was set before.
      rw [explains.fresh (succeeds.not_ready_of_startLength? starts)]
      simp [starts]

theorem Explains.of_succeeds (explains : Explains told submitters required past relay)
    (succeeds : relay.Succeeds call next) :
    Explains (told ++ call.added relay next) submitters required (past ++ [call]) next where
  changes := by
    rw [List.filter_append]
    exact List.rel_append explains.changes succeeds.changes
  started := by
    rw [List.countP_append, explains.started, Nat.add_comm]
    exact succeeds.started
  retargets := by
    rw [List.filterMap_append, explains.retargets, succeeds.retargets]
  authorized := by
    rw [List.foldl_append, explains.authorized]
    exact succeeds.authorizedSet
  required := by
    rw [List.filterMap_append, List.getLast?_append, Option.getD_or, explains.required]
    exact succeeds.required
  proofLength := explains.proofLength_of_succeeds succeeds
  fresh := explains.fresh_of_succeeds succeeds

theorem Explains.run (explains : Explains (told ++ relay.events) submitters required past relay)
    (calls : List Call) :
    Explains (told ++ relay.trail calls) submitters required (past ++ relay.accepted calls)
      (relay.run calls) := by
  induction calls generalizing relay told past with
  | nil => simpa [accepted, Runs.accepted] using explains
  | cons call rest ih =>
      rw [trail_cons, run_cons, accepted, Runs.accepted]
      split
      next answer answered =>
        have explained := explains.of_succeeds (succeeds_of_step answered)
        rw [List.append_assoc, ← log_grows answered, ← List.append_assoc] at explained
        rw [← List.append_assoc, List.append_cons]
        exact ih explained
      next error answered =>
        rw [answered, step_fst_of_error answered]
        exact ih explains

/-- The relays before any call, with the submitters and the requirement that they
are set up with. -/
inductive IsSetUp : EpochRelay → Set String → Bool → Prop where
  | new (constants : Network.Constants) (governance : String) :
      IsSetUp { constants, governance } ∅ false
  | configured (config : RelayConfig) :
      IsSetUp (ofConfig config) {submitter | submitter ∈ config.authorizedSubmitters}
        config.authorizationRequired

theorem mem_foldl_insert {submitter : String} {set added : List String} :
    submitter ∈ added.foldl (fun set submitter => set.insert submitter) set ↔
      submitter ∈ added ∨ submitter ∈ set := by
  induction added generalizing set with
  | nil => simp
  | cons first rest ih =>
      rw [List.foldl_cons, ih, List.mem_insert_iff, List.mem_cons]
      tauto

theorem IsSetUp.events (setUp : start.IsSetUp submitters required) : start.events = [] := by
  cases setUp <;> rfl

theorem IsSetUp.explains (setUp : start.IsSetUp submitters required) :
    Explains [] submitters required [] start := by
  cases setUp with
  | new =>
      refine ⟨.nil, rfl, rfl, ?_, rfl, rfl, fun _ => rfl⟩
      simp [EpochRelay.authorizedSet, isAuthorized]
  | configured config =>
      refine ⟨.nil, rfl, rfl, ?_, rfl, rfl, fun _ => rfl⟩
      simp [EpochRelay.authorizedSet, isAuthorized, ofConfig, mem_foldl_insert]

/-- In every run, wherever the log is taken in it, the events that were handed out and
those left in the log explain the relay that the run leads to. -/
theorem trail_explains_run (setUp : start.IsSetUp submitters required) (calls : List Call) :
    Explains (start.trail calls) submitters required (start.accepted calls)
      (start.run calls) := by
  have explained : Explains ([] ++ start.events) submitters required [] start := by
    rw [setUp.events]
    exact setUp.explains
  exact explained.run calls

/-- A relay of the test network with two authorized submitters. -/
def auditedRelay : EpochRelay :=
  ofConfig {
    network := .regtest
    authorizationRequired := true
    authorizedSubmitters := ["relayer", "helper"] }

/-- A run in which the log is taken three times, some calls fail before genesis and
after it, and one submitter is authorized twice. -/
def auditedCalls : List Call :=
  [.takeEvents,
    .setProofLength "governance" 5,
    .authorize "governance" "friend",
    .genesis "governance" easyHeader.encode 2016 1,
    .takeEvents,
    .authorize "governance" "friend",
    .deauthorize "governance" "helper",
    .retarget "helper" (Header.encodeChain [easyHeader, harderHeader]),
    .retarget "friend" (Header.encodeChain [easyHeader, harderHeader]),
    .setProofLength "governance" 1,
    .setProofLength "governance" 3,
    .takeEvents,
    .setAuthorizationRequired "governance" false]

theorem auditedRelay_is_explained :
    auditedRelay.trail auditedCalls =
        [.submitterAuthorized "friend", .genesis 2016, .submitterAuthorized "friend",
          .submitterDeauthorized "helper", .retarget 1 2, .proofLengthChanged 3,
          .authorizationRequirementChanged false] ∧
      (auditedRelay.run auditedCalls).events = [.authorizationRequirementChanged false] ∧
      Explains (auditedRelay.trail auditedCalls)
        {submitter | submitter ∈ ["relayer", "helper"]} true
        (auditedRelay.accepted auditedCalls) (auditedRelay.run auditedCalls) := by
  have setUp : auditedRelay.IsSetUp {submitter | submitter ∈ ["relayer", "helper"]} true :=
    .configured _
  exact ⟨by decide +kernel, by decide +kernel, trail_explains_run setUp auditedCalls⟩

end EpochRelay

end HeaderRelay
