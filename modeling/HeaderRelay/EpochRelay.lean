import HeaderRelay.Proof.Verification

/-!
# Epoch relay

Keeps the difficulty of every epoch since a trusted first one.  The history
grows by one epoch at a time, through a chain of headers that straddles the
next epoch boundary:

- as many headers on either side of the boundary as the proof length says;
- before the boundary, the target of the current epoch;
- from the boundary on, one other target within a factor of four;
- a boundary header younger than the first header of the current epoch;
- a chain that is valid for the two difficulties.

The new target is read off the boundary header and not computed from block
times.  An operation that fails changes nothing.
-/

namespace HeaderRelay

/-- What is known of one epoch. -/
structure EpochRecord where
  epoch : Epoch
  target : Target
  difficulty : Difficulty
  /-- The time of the first block. -/
  timestamp : UInt32
  deriving DecidableEq

/-- A change of an epoch relay. -/
inductive RelayEvent where
  | genesis (height : Height)
  | retarget (old new : Difficulty)
  | proofLengthChanged (length : Nat)
  | authorizationRequirementChanged (required : Bool)
  | submitterAuthorized (submitter : String)
  | submitterDeauthorized (submitter : String)
  deriving DecidableEq

structure EpochRelay where
  constants : Network.Constants
  governance : String
  proofLength : Nat := 0
  authorizationRequired : Bool := false
  /-- The authorized submitters, each once. -/
  authorized : List String := []
  /-- The known epochs, the oldest first; none before genesis. -/
  epochs : List EpochRecord := []
  /-- The changes since the log was last taken, the oldest first. -/
  events : List RelayEvent := []
  deriving DecidableEq

namespace EpochRelay

/-- The fewest headers that `validateChain` accepts. -/
def minChainLength : Nat :=
  3

/-- A relay before genesis, with the configured network, governance and
submitters. -/
def ofConfig (config : RelayConfig) : EpochRelay where
  constants := config.network.constants
  governance := config.governance
  authorizationRequired := config.authorizationRequired
  authorized := config.authorizedSubmitters.foldl (fun set submitter => set.insert submitter) []

/-- Whether genesis has happened. -/
def isReady (relay : EpochRelay) : Bool :=
  !relay.epochs.isEmpty

def genesisEpoch? (relay : EpochRelay) : Option Epoch :=
  relay.epochs.head?.map EpochRecord.epoch

def currentEpoch? (relay : EpochRelay) : Option Epoch :=
  relay.epochs.getLast?.map EpochRecord.epoch

def isAuthorized (relay : EpochRelay) (submitter : String) : Bool :=
  relay.authorized.contains submitter

/-- The record of the current epoch. -/
def latest (relay : EpochRelay) : Except Error EpochRecord :=
  match relay.epochs.getLast? with
  | some record => .ok record
  | none => .error RelayStateError.notInitialized

/-- Lets only the governance pass. -/
def requireGovernance (relay : EpochRelay) (caller : String) : Except Error Unit :=
  if caller = relay.governance then .ok ()
  else .error (AuthorizationError.notGovernance caller)

/-- Lets only those pass who may retarget. -/
def requireSubmitter (relay : EpochRelay) (submitter : String) : Except Error Unit :=
  if relay.authorizationRequired && !relay.isAuthorized submitter then
    .error (AuthorizationError.submitterUnauthorized submitter)
  else .ok ()

/-- A proof length is at least one and shorter than an epoch. -/
def checkProofLength (length : Nat) : Except Error Unit :=
  if length = 0 || length ≥ Epoch.length then
    .error (RelayStateError.invalidProofLength length)
  else .ok ()

/-- The relay with one more event in its log. -/
def log (relay : EpochRelay) (event : RelayEvent) : EpochRelay :=
  { relay with events := relay.events ++ [event] }

/-- The record of the first epoch, taken from its first header. -/
def genesisRecord (constants : Network.Constants) (header : Header) (height : Height) :
    EpochRecord where
  epoch := Epoch.ofHeight height
  target := header.target
  difficulty := header.difficulty constants
  timestamp := header.time

/-- Starts the history at an epoch boundary. The header is trusted: its work is
not checked. -/
def genesis (relay : EpochRelay) (caller : String) (header : Bytes) (height : Height)
    (proofLength : Nat) : Except Error EpochRelay := do
  relay.requireGovernance caller
  if relay.isReady then throw (RelayStateError.alreadyInitialized : Error)
  let header ← (Header.decode header).mapError Error.malformed
  if !Epoch.startsAt height then
    throw (RelayStateError.invalidGenesisHeight height : Error)
  checkProofLength proofLength
  let record := genesisRecord relay.constants header height
  let started := { relay with epochs := relay.epochs ++ [record], proofLength := proofLength }
  return started.log (.genesis height)

/-- The record of the epoch after `current`, read off a chain whose boundary
header stands at index `proofLength`. -/
def nextRecord (constants : Network.Constants) (proofLength : Nat)
    (current : EpochRecord) (headers : List Header) : Except Error EpochRecord :=
  match (headers.take proofLength).findIdx? fun header => header.target ≠ current.target with
  | some index => .error (ConsensusError.wrongOldTarget index)
  | none =>
      match headers.drop proofLength with
      | [] => .error (MalformedInput.headerCount (2 * proofLength) headers.length)
      | boundary :: rest =>
          let target := boundary.target
          match (boundary :: rest).findIdx? fun header => header.target ≠ target with
          | some offset => .error (ConsensusError.wrongNewTarget (proofLength + offset))
          | none =>
              if target = current.target || !current.target.mayBecome target ||
                  boundary.time ≤ current.timestamp then
                .error (ConsensusError.wrongNewTarget proofLength)
              else
                .ok ⟨current.epoch + 1, target, boundary.difficulty constants,
                  boundary.time⟩

/-- Adds the epoch after the current one and tells its difficulty. -/
def retarget (relay : EpochRelay) (submitter : String) (headers : Bytes) :
    Except Error (EpochRelay × Difficulty) := do
  let current ← relay.latest
  relay.requireSubmitter submitter
  let headers ← (Header.decodeChain headers).mapError Error.malformed
  if headers.length ≠ 2 * relay.proofLength then
    throw (MalformedInput.headerCount (2 * relay.proofLength) headers.length : Error)
  let record ← nextRecord relay.constants relay.proofLength current headers
  let _ ← ValidatedChain.ofHeaders relay.constants
    ⟨current.difficulty, record.difficulty⟩ headers
  let extended := { relay with epochs := relay.epochs ++ [record] }
  return (extended.log (.retarget current.difficulty record.difficulty), record.difficulty)

/-- Changes the proof length to another one. -/
def setProofLength (relay : EpochRelay) (caller : String) (length : Nat) :
    Except Error EpochRelay := do
  relay.requireGovernance caller
  let _ ← relay.latest
  checkProofLength length
  if length = relay.proofLength then
    throw (RelayStateError.invalidProofLength length : Error)
  return { relay with proofLength := length }.log (.proofLengthChanged length)

/-- Says whether only authorized submitters may retarget. -/
def setAuthorizationRequired (relay : EpochRelay) (caller : String) (required : Bool) :
    Except Error EpochRelay := do
  relay.requireGovernance caller
  return { relay with authorizationRequired := required }.log
    (.authorizationRequirementChanged required)

/-- Authorizes a submitter, who may have been authorized before. -/
def authorize (relay : EpochRelay) (caller submitter : String) :
    Except Error EpochRelay := do
  relay.requireGovernance caller
  return { relay with authorized := relay.authorized.insert submitter }.log
    (.submitterAuthorized submitter)

/-- Withdraws an authorization, which need not exist. -/
def deauthorize (relay : EpochRelay) (caller submitter : String) :
    Except Error EpochRelay := do
  relay.requireGovernance caller
  return { relay with authorized := relay.authorized.filter (· ≠ submitter) }.log
    (.submitterDeauthorized submitter)

/-- Empties the log and tells what was in it. -/
def takeEvents (relay : EpochRelay) : EpochRelay × List RelayEvent :=
  ({ relay with events := [] }, relay.events)

/-- The difficulties for a chain that starts at a time: those of the epoch the
time falls in and of the one after it, if the relay knows that one. Only the
last two epochs are open to new chains. -/
def difficultiesAt (relay : EpochRelay) (timestamp : UInt32) :
    Except Error EpochDifficulties :=
  match relay.epochs.reverse with
  | [] => .error RelayStateError.notInitialized
  | current :: older =>
      if current.timestamp ≤ timestamp then .ok ⟨current.difficulty, current.difficulty⟩
      else
        match older with
        | [] => .error (RelayStateError.epochBeforeGenesis (Height.down current.epoch 1))
        | previous :: oldest =>
            let genesis := oldest.getLastD previous
            if previous.timestamp ≤ timestamp then
              .ok ⟨previous.difficulty, current.difficulty⟩
            else if timestamp < genesis.timestamp then
              .error (RelayStateError.epochBeforeGenesis (Height.down genesis.epoch 1))
            else .error RelayStateError.chainTooOld

/-- Judges a chain by the epoch its first header falls in; tells the hash of
that header and the number of headers. -/
def validateChain (relay : EpochRelay) (headers : Bytes) : Except Error (Hash × Nat) := do
  let _ ← relay.latest
  let headers ← (Header.decodeChain headers).mapError Error.malformed
  let longest := 2 * relay.proofLength
  if headers.length < minChainLength then
    throw (MalformedInput.headerCount minChainLength headers.length : Error)
  if headers.length > longest then
    throw (MalformedInput.headerCount longest headers.length : Error)
  let epochs ← relay.difficultiesAt (headers.head?.elim 0 Header.time)
  let validated ← ValidatedChain.ofHeaders relay.constants epochs headers
  return (validated.firstHash, validated.count)

/-- The difficulty of an epoch. -/
def epochDifficulty (relay : EpochRelay) (epoch : Epoch) : Except Error Difficulty :=
  match relay.epochs with
  | [] => .error RelayStateError.notInitialized
  | genesis :: later =>
      if epoch < genesis.epoch then .error (RelayStateError.epochBeforeGenesis epoch)
      else
        match (genesis :: later)[(epoch - genesis.epoch).toNat]? with
        | some record => .ok record.difficulty
        | none => .error (RelayStateError.epochNotProven epoch)

/-- The difficulty of the epoch that a height lies in. -/
def blockDifficulty (relay : EpochRelay) (height : Height) : Except Error Difficulty :=
  relay.epochDifficulty (Epoch.ofHeight height)

/-- The difficulty of the last epoch, zero before genesis. -/
def currentDifficulty (relay : EpochRelay) : Difficulty :=
  relay.epochs.getLast?.elim 0 EpochRecord.difficulty

/-- The difficulty of the epoch before the last one, zero if there is none. -/
def previousDifficulty (relay : EpochRelay) : Difficulty :=
  relay.epochs.dropLast.getLast?.elim 0 EpochRecord.difficulty

/-- The first and the last height of the known epochs; before genesis, those of
epoch zero. -/
def range (relay : EpochRelay) : Height × Height :=
  match relay.epochs.head?, relay.epochs.getLast? with
  | some genesis, some current =>
      (Epoch.start genesis.epoch, Height.up (Epoch.start current.epoch) (Epoch.length - 1))
  | _, _ => (0, UInt32.ofNat (Epoch.length - 1))

/-- The difficulties that proofs are held against. -/
def epochDifficulties (relay : EpochRelay) : Except Error EpochDifficulties := do
  let _ ← relay.latest
  return ⟨relay.previousDifficulty, relay.currentDifficulty⟩

/-- The relay as an anchor, which knows difficulties but no blocks. -/
def anchor (relay : EpochRelay) : Anchor where
  constants := relay.constants
  epochs := relay.epochDifficulties

end EpochRelay

end HeaderRelay
