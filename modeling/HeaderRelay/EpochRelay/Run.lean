import HeaderRelay.EpochRelay

/-!
# Runs of an epoch relay

Everything that can be asked of an epoch relay is a call with an answer.  A run
is a list of calls; the relay that a run leads to depends on nothing else.
-/

namespace HeaderRelay.EpochRelay

/-- A call, with the identity of the caller where it matters. -/
inductive Call where
  | genesis (caller : String) (header : Bytes) (height : Height) (proofLength : Nat)
  | retarget (submitter : String) (headers : Bytes)
  | setProofLength (caller : String) (length : Nat)
  | setAuthorizationRequired (caller : String) (required : Bool)
  | authorize (caller submitter : String)
  | deauthorize (caller submitter : String)
  | takeEvents
  | validateChain (headers : Bytes)
  | verifyProof (config : VerifierConfig) (proof : Proof)
  | isAuthorized (submitter : String)
  | epochDifficulty (epoch : Epoch)
  | blockDifficulty (height : Height)
  | currentDifficulty
  | previousDifficulty
  | epochDifficulties
  | epochs
  deriving DecidableEq

/-- What a call that succeeds tells. -/
inductive Answer where
  | done
  | flag (value : Bool)
  | difficulty (value : Difficulty)
  | difficulties (epochs : EpochDifficulties)
  | chainStart (hash : Hash) (count : Nat)
  | chain (validated : ValidatedChain)
  | records (epochs : List EpochRecord)
  | log (events : List RelayEvent)
  deriving DecidableEq

/-- A change: the relay stays as it is if the operation fails. -/
def change (relay : EpochRelay) (result : Except Error EpochRelay) :
    EpochRelay × Except Error Answer :=
  match result with
  | .ok changed => (changed, .ok .done)
  | .error error => (relay, .error error)

/-- The relay after a call, and the answer. -/
def step (relay : EpochRelay) : Call → EpochRelay × Except Error Answer
  | .genesis caller header height proofLength =>
      relay.change (relay.genesis caller header height proofLength)
  | .retarget submitter headers =>
      match relay.retarget submitter headers with
      | .ok (extended, difficulty) => (extended, .ok (.difficulty difficulty))
      | .error error => (relay, .error error)
  | .setProofLength caller length => relay.change (relay.setProofLength caller length)
  | .setAuthorizationRequired caller required =>
      relay.change (relay.setAuthorizationRequired caller required)
  | .authorize caller submitter => relay.change (relay.authorize caller submitter)
  | .deauthorize caller submitter => relay.change (relay.deauthorize caller submitter)
  | .takeEvents =>
      let (emptied, events) := relay.takeEvents
      (emptied, .ok (.log events))
  | .validateChain headers =>
      (relay, (relay.validateChain headers).map fun (hash, count) => .chainStart hash count)
  | .verifyProof config proof => (relay, (proof.verify relay.anchor config).map .chain)
  | .isAuthorized submitter => (relay, .ok (.flag (relay.isAuthorized submitter)))
  | .epochDifficulty epoch => (relay, (relay.epochDifficulty epoch).map .difficulty)
  | .blockDifficulty height => (relay, (relay.blockDifficulty height).map .difficulty)
  | .currentDifficulty => (relay, .ok (.difficulty relay.currentDifficulty))
  | .previousDifficulty => (relay, .ok (.difficulty relay.previousDifficulty))
  | .epochDifficulties => (relay, relay.epochDifficulties.map .difficulties)
  | .epochs => (relay, .ok (.records relay.epochs))

/-- The relay after each call of a list, with the answers. -/
def trace (relay : EpochRelay) : List Call → List (EpochRelay × Except Error Answer)
  | [] => []
  | call :: rest =>
      let result := relay.step call
      result :: trace result.1 rest

/-- The relay after all calls of a list. -/
def run (relay : EpochRelay) (calls : List Call) : EpochRelay :=
  calls.foldl (fun relay call => (relay.step call).1) relay

@[simp] theorem run_nil (relay : EpochRelay) : relay.run [] = relay := rfl

@[simp] theorem run_cons (relay : EpochRelay) (call : Call) (rest : List Call) :
    relay.run (call :: rest) = (relay.step call).1.run rest := rfl

theorem run_append (relay : EpochRelay) (first second : List Call) :
    relay.run (first ++ second) = (relay.run first).run second := by
  simp [run]

end HeaderRelay.EpochRelay
