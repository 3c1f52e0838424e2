import HeaderRelay.Height
import HeaderRelay.Target
import HeaderRelay.Text.Number

/-!
# Errors

What can go wrong, one type per class of failure.  The class tells a bad proof
from a relay that does not know enough yet, from a caller without the right
and from trouble outside.  Every error has one message, which is the only place
where its wording is fixed.
-/

namespace HeaderRelay

/-- Input that cannot be decoded. Lengths are in bytes, except for the number
of headers of a chain. -/
inductive MalformedInput where
  | headerLength (actual : Nat)
  | chainLength (actual : Nat)
  | headerCount (expected actual : Nat)
  | branchLength (actual : Nat)
  | hexDigits (cause : Hex.DecodeError)
  | hashLength (actual : Nat)
  deriving DecidableEq

/-- Proof of work and inclusion rules that are broken. -/
inductive ConsensusError where
  | discontinuousChain (index : Nat)
  | insufficientWork (index : Nat)
  | wrongEpochDifficulty (index : Nat) (difficulty : Difficulty)
  | outOfOrderTransition (index : Nat)
  | emptyProof
  | invalidMerkleIndex (index : UInt64) (depth : Nat)
  | rootMismatch (root : Hash)
  | wrongOldTarget (index : Nat)
  | wrongNewTarget (index : Nat)
  | wrongTarget (height : Height)
  | insufficientAccumulatedDifficulty (required observed : Difficulty)
  deriving DecidableEq

/-- Questions that a relay cannot answer with what it knows. -/
inductive RelayStateError where
  | notInitialized
  | alreadyInitialized
  | invalidGenesisHeight (height : Height)
  | invalidProofLength (length : Nat)
  | epochNotProven (epoch : Epoch)
  | epochBeforeGenesis (epoch : Epoch)
  | chainTooOld
  | invalidAncestorHeight (height : Height)
  | ancestorNotRecorded (height : Height)
  | otherAncestorRecorded (height : Height) (recorded : Hash)
  deriving DecidableEq

/-- Callers without the right to do what they ask for. -/
inductive AuthorizationError where
  | notGovernance (caller : String)
  | submitterUnauthorized (submitter : String)
  deriving DecidableEq

/-- Data that a provider could not supply. -/
inductive ProviderError where
  | insufficientConfirmations (required actual : UInt32)
  | transactionNotFound (name : String)
  | blockNotFound (height : Height)
  | noBlocks
  | confirmationsAboveTip (txid : Hash) (confirmations : UInt32) (tip : Height)
  | branchOfOtherBlock (txid : Hash) (actual expected : Height)
  | failure (text : String)
  deriving DecidableEq

/-- Why an environment variable has no text. -/
inductive VariableError where
  | absent
  | notUnicode (value : Bytes)
  deriving DecidableEq

/-- Settings that cannot be used. -/
inductive ConfigError where
  | noConfirmations
  | windowTooSmall (capacity : Nat)
  | unreadableFile (path : String)
  | invalidConfiguration
  | invalidArguments
  | invalidProofFile (path : String)
  | malformedVariable (name : String) (cause : Text.ValueError)
  | unsetVariable (cause : VariableError)
  deriving DecidableEq

/-- Any error of this library. -/
inductive Error where
  | malformed (cause : MalformedInput)
  | consensus (cause : ConsensusError)
  | relayState (cause : RelayStateError)
  | unauthorized (cause : AuthorizationError)
  | provider (cause : ProviderError)
  | config (cause : ConfigError)
  deriving DecidableEq

instance : Coe MalformedInput Error := ⟨.malformed⟩
instance : Coe ConsensusError Error := ⟨.consensus⟩
instance : Coe RelayStateError Error := ⟨.relayState⟩
instance : Coe AuthorizationError Error := ⟨.unauthorized⟩
instance : Coe ProviderError Error := ⟨.provider⟩
instance : Coe ConfigError Error := ⟨.config⟩

namespace MalformedInput

def message : MalformedInput → String
  | headerLength actual => s!"Malformed header: expected 80 bytes, got {actual}"
  | chainLength actual =>
      s!"Invalid header chain length: {actual} bytes is not a multiple of 80"
  | headerCount expected actual =>
      s!"Invalid header length: expected {expected} headers, got {actual}"
  | branchLength actual =>
      s!"Invalid Merkle proof length: {actual} bytes is not a multiple of 32"
  | hexDigits cause => "Invalid hex input: " ++ cause.message
  | hashLength actual => s!"Invalid hex input: expected 32 bytes, got {actual}"

end MalformedInput

namespace ConsensusError

def message : ConsensusError → String
  | discontinuousChain index => s!"Header {index} does not reference the previous header"
  | insufficientWork index => s!"Header {index} does not satisfy its target"
  | wrongEpochDifficulty index difficulty =>
      s!"Header {index} has difficulty {hexDigits difficulty} outside the accepted epochs"
  | outOfOrderTransition index =>
      s!"Header {index} returns to the previous epoch difficulty"
  | emptyProof => "Merkle proof is empty but the leaf is not the root"
  | invalidMerkleIndex index depth =>
      s!"Merkle index {index} does not fit a branch of depth {depth}"
  | rootMismatch root => "Merkle proof does not lead to root " ++ root.display
  | wrongOldTarget index => s!"Invalid target in pre-retarget header {index}"
  | wrongNewTarget index => s!"Invalid target in new epoch header {index}"
  | wrongTarget height => s!"Invalid target in header at height {height}"
  | insufficientAccumulatedDifficulty required observed =>
      "Insufficient accumulated difficulty: required " ++ hexDigits required ++
        ", observed " ++ hexDigits observed

end ConsensusError

namespace RelayStateError

def message : RelayStateError → String
  | notInitialized => "Relay is not initialized"
  | alreadyInitialized => "Relay is already initialized"
  | invalidGenesisHeight height => s!"Invalid genesis height {height}"
  | invalidProofLength length => s!"Invalid proof length {length}"
  | epochNotProven epoch => s!"Epoch {epoch} is not proven yet"
  | epochBeforeGenesis epoch => s!"Epoch {epoch} is before relay genesis"
  | chainTooOld => "Header chain starts in an epoch older than the previous one"
  | invalidAncestorHeight height => s!"Invalid ancestor height {height}"
  | ancestorNotRecorded height =>
      s!"Ancestor at height {height} is not recorded in the relay"
  | otherAncestorRecorded height recorded =>
      s!"Ancestor at height {height} does not match the recorded block " ++ recorded.display

end RelayStateError

namespace AuthorizationError

def message : AuthorizationError → String
  | notGovernance caller => caller ++ " is not the relay governance"
  | submitterUnauthorized submitter => "Submitter " ++ submitter ++ " is not authorized"

end AuthorizationError

namespace ProviderError

def message : ProviderError → String
  | insufficientConfirmations required actual =>
      s!"Transaction has {actual} confirmations, {required} required"
  | transactionNotFound name => "Transaction " ++ name ++ " not found"
  | blockNotFound height => s!"Block at height {height} not found"
  | noBlocks => "Provider holds no blocks"
  | confirmationsAboveTip txid confirmations tip =>
      "Transaction " ++ txid.display ++
        s!" has {confirmations} confirmations above tip {tip}"
  | branchOfOtherBlock txid actual expected =>
      "Merkle branch of " ++ txid.display ++
        s!" is for block {actual}, expected {expected}"
  | failure text => text

end ProviderError

namespace VariableError

def message : VariableError → String
  | absent => "environment variable not found"
  | notUnicode value =>
      "environment variable was not valid unicode: " ++ Text.quotedBytes value

end VariableError

namespace ConfigError

def message : ConfigError → String
  | noConfirmations => "Configuration error: At least one confirmation must be required"
  | windowTooSmall capacity =>
      s!"Configuration error: Window capacity {capacity} is smaller than a batch of 7 headers"
  | unreadableFile path => "Configuration error: cannot read " ++ path
  | invalidConfiguration => "Configuration error: the configuration file is not valid"
  | invalidArguments => "Configuration error: the command line is not valid"
  | invalidProofFile path => "Configuration error: Invalid proof file " ++ path
  | malformedVariable name cause =>
      "Environment variable " ++ name ++ " is malformed: " ++ cause.message
  | unsetVariable cause => "Environment variable not set: " ++ cause.message

end ConfigError

/-- The classes of errors. -/
inductive Error.Kind where
  | malformed
  | consensus
  | relayState
  | unauthorized
  | provider
  | config
  deriving DecidableEq

namespace Error

def kind : Error → Kind
  | malformed _ => .malformed
  | consensus _ => .consensus
  | relayState _ => .relayState
  | unauthorized _ => .unauthorized
  | provider _ => .provider
  | config _ => .config

/-- Whether the error condemns the submitted input itself, whatever the relay
knows and whoever asks. -/
def condemnsProof (error : Error) : Bool :=
  error.kind = .malformed || error.kind = .consensus

def message : Error → String
  | malformed cause => cause.message
  | consensus cause => cause.message
  | relayState cause => cause.message
  | unauthorized cause => cause.message
  | provider cause => cause.message
  | config cause => cause.message

end Error

end HeaderRelay
