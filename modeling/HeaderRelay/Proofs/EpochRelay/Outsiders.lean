import HeaderRelay.Proofs.EpochRelay.Records
import Mathlib.Data.Set.Insert

/-!
# Callers without rights

Every call that may change a relay names the one who makes it.  While only
authorized submitters may retarget, somebody who neither governs the relay nor is
authorized is refused whatever the call, and the relay stays as it is.

A call that leaves the relay as it is can be struck out of a run: the calls that
remain find the same relays and get the same answers.  So nobody can tell from a
relay, its log or its answers whether such callers have tried anything.
-/

namespace HeaderRelay.EpochRelay

variable {relay next start : EpochRelay} {call : Call} {rest calls : List Call}

/-! ## Calls that change nothing -/

/-- The calls of a run, each with the relay that it leads to and its answer. -/
def transcript (start : EpochRelay) (calls : List Call) :
    List (Call × EpochRelay × Except Error Answer) :=
  calls.zip (start.trace calls)

@[simp] theorem transcript_nil : start.transcript [] = [] := rfl

@[simp] theorem transcript_cons :
    start.transcript (call :: rest) =
      (call, start.step call) :: (start.step call).1.transcript rest := rfl

/-- An entry of a transcript is what a call led to at its place in the run. -/
theorem exists_place_of_mem_transcript {entry : Call × EpochRelay × Except Error Answer}
    (member : entry ∈ start.transcript calls) :
    ∃ before after, calls = before ++ entry.1 :: after ∧
      (start.run before).step entry.1 = entry.2 := by
  induction calls generalizing start with
  | nil => simp at member
  | cons call rest ih =>
      rw [transcript_cons, List.mem_cons] at member
      rcases member with rfl | later
      · exact ⟨[], rest, rfl, rfl⟩
      · obtain ⟨before, after, split, led⟩ := ih later
        exact ⟨call :: before, after, by rw [split, List.cons_append], led⟩

/-- Whether the calls of some kind leave the relay as it is, wherever they stand in
a run. -/
def Idle (start : EpochRelay) (calls : List Call) (struck : Call → Prop) : Prop :=
  ∀ before call after, calls = before ++ call :: after → struck call →
    ((start.run before).step call).1 = start.run before

variable {struck : Call → Prop}

theorem Idle.head (idle : start.Idle (call :: rest) struck) (isStruck : struck call) :
    (start.step call).1 = start :=
  idle [] call rest rfl isStruck

theorem Idle.tail (idle : start.Idle (call :: rest) struck) :
    (start.step call).1.Idle rest struck := by
  intro before other after split isStruck
  exact idle (call :: before) other after (by rw [split, List.cons_append]) isStruck

variable [DecidablePred struck]

/-- Striking out idle calls leads to the same relay. -/
theorem Idle.run_filter (idle : start.Idle calls struck) :
    start.run (calls.filter fun call => ¬struck call) = start.run calls := by
  induction calls generalizing start with
  | nil => rfl
  | cons call rest ih =>
      have remaining := ih idle.tail
      by_cases isStruck : struck call
      · rw [idle.head isStruck] at remaining
        rw [List.filter_cons_of_neg (by simpa using isStruck), run_cons, idle.head isStruck]
        exact remaining
      · rw [List.filter_cons_of_pos (by simpa using isStruck), run_cons, run_cons]
        exact remaining

/-- The transcript without idle calls is that of the run, less their entries. -/
theorem Idle.transcript_filter (idle : start.Idle calls struck) :
    start.transcript (calls.filter fun call => ¬struck call) =
      (start.transcript calls).filter fun entry => ¬struck entry.1 := by
  induction calls generalizing start with
  | nil => rfl
  | cons call rest ih =>
      have remaining := ih idle.tail
      rw [transcript_cons]
      by_cases isStruck : struck call
      · rw [List.filter_cons_of_neg (by simpa using isStruck),
          List.filter_cons_of_neg (by simpa using isStruck)]
        rw [idle.head isStruck] at remaining ⊢
        exact remaining
      · rw [List.filter_cons_of_pos (by simpa using isStruck),
          List.filter_cons_of_pos (by simpa using isStruck), transcript_cons, remaining]

/-! ## Refusals -/

variable {outsiders : Set String}

/-- Whether one of some identities makes a call that may change the relay. -/
def Call.IsBy (call : Call) (outsiders : Set String) : Prop :=
  ∃ caller ∈ call.caller?, caller ∈ outsiders

instance [DecidablePred (· ∈ outsiders)] : DecidablePred (Call.IsBy · outsiders) :=
  fun call => inferInstanceAs (Decidable (∃ caller ∈ call.caller?, caller ∈ outsiders))

/-- Whether retargets are for authorized submitters only, and none of some
identities is authorized. -/
structure Excludes (relay : EpochRelay) (outsiders : Set String) : Prop where
  required : relay.authorizationRequired = true
  unauthorized : ∀ identity ∈ outsiders, relay.isAuthorized identity = false

theorem Excludes.not_maySubmit (excludes : relay.Excludes outsiders) {identity : String}
    (outside : identity ∈ outsiders) : ¬relay.MaySubmit identity := by
  intro allowed
  have authorized := allowed excludes.required
  rw [excludes.unauthorized identity outside] at authorized
  cases authorized

/-- Of the calls that may change a relay, only those of its governance and of
submitters who may retarget succeed. -/
theorem Succeeds.caller_has_right (succeeds : relay.Succeeds call next) {caller : String}
    (made : call.caller? = some caller) :
    caller = relay.governance ∨ relay.MaySubmit caller := by
  cases succeeds with
  | genesis governed | setProofLength governed | setAuthorizationRequired governed
  | authorize governed | deauthorize governed =>
      obtain rfl := Option.some.inj made
      exact .inl governed
  | retarget last allowed =>
      obtain rfl := Option.some.inj made
      exact .inr allowed
  | takeEvents => cases made
  | query asked =>
      rw [Call.caller?_of_isQuery asked] at made
      cases made

/-- An outsider is refused, and the relay stays as it is. -/
theorem Excludes.refuses (excludes : relay.Excludes outsiders)
    (notGovernance : relay.governance ∉ outsiders) (by_ : call.IsBy outsiders) :
    ∃ error, relay.step call = (relay, .error error) := by
  obtain ⟨caller, made, outside⟩ := by_
  cases answered : (relay.step call).2 with
  | error error => exact ⟨error, Prod.ext (step_fst_of_error answered) answered⟩
  | ok answer =>
      exfalso
      rcases (succeeds_of_step answered).caller_has_right made with governed | allowed
      · exact notGovernance (governed ▸ outside)
      · exact excludes.not_maySubmit outside allowed

/-! ## Runs -/

/-- If at every step of a run only authorized submitters may retarget and none of the
outsiders is authorized, then striking out every call of theirs leads to the same
relay, its log included, leaves what all other calls led to and their answers as
they were, and each call struck out had been refused. -/
theorem outsiders_have_no_influence [DecidablePred (· ∈ outsiders)]
    (notGovernance : start.governance ∉ outsiders)
    (excluded : ∀ before call after, calls = before ++ call :: after →
      (start.run before).Excludes outsiders) :
    start.run (calls.filter fun call => ¬call.IsBy outsiders) = start.run calls ∧
      start.transcript (calls.filter fun call => ¬call.IsBy outsiders) =
        (start.transcript calls).filter (fun entry => ¬entry.1.IsBy outsiders) ∧
      ∀ entry ∈ start.transcript calls, entry.1.IsBy outsiders →
        ∃ error, entry.2.2 = .error error := by
  have refused : ∀ before call after, calls = before ++ call :: after → call.IsBy outsiders →
      ∃ error, (start.run before).step call = (start.run before, .error error) := by
    intro before call after split isOutsider
    refine (excluded before call after split).refuses ?_ isOutsider
    rwa [governance_run]
  have idle : start.Idle calls (Call.IsBy · outsiders) := by
    intro before call after split isOutsider
    obtain ⟨error, led⟩ := refused before call after split isOutsider
    rw [led]
  refine ⟨idle.run_filter, idle.transcript_filter, ?_⟩
  intro entry member isOutsider
  obtain ⟨before, after, split, led⟩ := exists_place_of_mem_transcript member
  obtain ⟨error, answered⟩ := refused before entry.1 after split isOutsider
  exact ⟨error, by rw [← led, answered]⟩

/-- A relay of the test network with one authorized submitter. -/
def guardedRelay : EpochRelay :=
  ofConfig {
    network := .regtest
    authorizationRequired := true
    authorizedSubmitters := ["relayer"] }

/-- A run in which an intruder tries every change, before genesis and after it. -/
def attackedCalls : List Call :=
  [.genesis "intruder" easyHeader.encode 2016 1,
    .retarget "intruder" (Header.encodeChain [easyHeader, harderHeader]),
    .genesis "governance" easyHeader.encode 2016 1,
    .setAuthorizationRequired "intruder" false,
    .authorize "intruder" "intruder",
    .retarget "intruder" (Header.encodeChain [easyHeader, harderHeader]),
    .isAuthorized "intruder",
    .takeEvents,
    .deauthorize "intruder" "relayer",
    .setProofLength "intruder" 2,
    .retarget "relayer" (Header.encodeChain [easyHeader, harderHeader]),
    .currentDifficulty]

/-- The calls of that run that the intruder does not make. -/
def undisturbedCalls : List Call :=
  [.genesis "governance" easyHeader.encode 2016 1,
    .isAuthorized "intruder",
    .takeEvents,
    .retarget "relayer" (Header.encodeChain [easyHeader, harderHeader]),
    .currentDifficulty]

theorem guardedRelay_ignores_intruder :
    (guardedRelay.run attackedCalls).epochs.map EpochRecord.difficulty = [1, 2] ∧
      guardedRelay.run undisturbedCalls = guardedRelay.run attackedCalls ∧
      guardedRelay.transcript undisturbedCalls =
        (guardedRelay.transcript attackedCalls).filter
          (fun entry => ¬entry.1.IsBy {"intruder"}) ∧
      ∀ entry ∈ guardedRelay.transcript attackedCalls, entry.1.IsBy {"intruder"} →
        ∃ error, entry.2.2 = .error error := by
  have notGovernance : guardedRelay.governance ∉ ({"intruder"} : Set String) := by decide
  have guarded : ∀ before ∈ attackedCalls.inits,
      (guardedRelay.run before).authorizationRequired = true ∧
        (guardedRelay.run before).isAuthorized "intruder" = false := by decide +kernel
  have excluded : ∀ before call after, attackedCalls = before ++ call :: after →
      (guardedRelay.run before).Excludes {"intruder"} := by
    intro before call after split
    have begun : before ∈ attackedCalls.inits := (List.mem_inits _ _).mpr ⟨_, split.symm⟩
    obtain ⟨required, unauthorized⟩ := guarded before begun
    exact ⟨required, by rintro identity rfl; exact unauthorized⟩
  have struck : (attackedCalls.filter fun call => ¬call.IsBy {"intruder"}) =
      undisturbedCalls := by decide +kernel
  refine ⟨by decide +kernel, ?_⟩
  rw [← struck]
  exact outsiders_have_no_influence notGovernance excluded

end HeaderRelay.EpochRelay
