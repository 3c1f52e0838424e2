import HeaderRelay.Config
import HeaderRelay.Error
import HeaderRelay.Text.Listing

/-!
# Configuration from the environment

Seven variables must be set, an eighth lists the authorized submitters and may
be missing.  The settings of the data provider cannot be given this way.
-/

namespace HeaderRelay

/-- The value of each variable that is set. -/
abbrev Environment :=
  String → Option Bytes

namespace Environment

/-- The text of a variable. -/
def text (environment : Environment) (name : String) : Except VariableError String :=
  match environment name with
  | none => .error .absent
  | some value =>
      match value.toString? with
      | some text => .ok text
      | none => .error (.notUnicode value)

/-- The text of a variable that must be set. -/
def required (environment : Environment) (name : String) : Except ConfigError String :=
  (environment.text name).mapError .unsetVariable

/-- The value that a variable stands for. -/
def parsed {α : Type} (environment : Environment)
    (read : String → Except Text.ValueError α) (name : String) : Except ConfigError α := do
  let text ← environment.required name
  (read text).mapError (.malformedVariable name)

end Environment

/-- Reads the name of a network. -/
def Network.read (text : String) : Except Text.ValueError Network :=
  match ofName? text with
  | some network => .ok network
  | none => .error (.notNetwork text)

namespace Config

/-- The variables that must be set, in the order in which they are read. -/
def requiredVariables : List String :=
  ["SPV_NETWORK", "SPV_PROOF_LENGTH", "SPV_AUTHORIZATION_REQUIRED", "SPV_GOVERNANCE",
    "SPV_WINDOW_CAPACITY", "SPV_REQUIRED_CONFIRMATIONS",
    "SPV_ENFORCE_ACCUMULATED_DIFFICULTY"]

/-- The variable that may be missing. -/
def submittersVariable : String :=
  "SPV_AUTHORIZED_SUBMITTERS"

/-- Reads a number of blocks or headers. -/
def readSize (text : String) : Except Text.ValueError Nat :=
  Text.readNat maxSize text

/-- Reads a number of confirmations. -/
def readConfirmations (text : String) : Except Text.ValueError UInt32 :=
  (Text.readNat (UInt32.size - 1) text).map UInt32.ofNat

/-- The authorized submitters; none if the list cannot be read. -/
def submitters (environment : Environment) : List String :=
  match environment.text submittersVariable with
  | .ok text => Text.listed text
  | .error _ => []

/-- The settings that the environment gives. -/
def ofEnvironment (environment : Environment) : Except ConfigError Config := do
  let network ← environment.parsed Network.read "SPV_NETWORK"
  let proofLength ← environment.parsed readSize "SPV_PROOF_LENGTH"
  let authorizationRequired ←
    environment.parsed Text.readBool "SPV_AUTHORIZATION_REQUIRED"
  let governance ← environment.required "SPV_GOVERNANCE"
  let capacity ← environment.parsed readSize "SPV_WINDOW_CAPACITY"
  let requiredConfirmations ←
    environment.parsed readConfirmations "SPV_REQUIRED_CONFIRMATIONS"
  let enforceAccumulated ←
    environment.parsed Text.readBool "SPV_ENFORCE_ACCUMULATED_DIFFICULTY"
  return {
    relay := {
      network
      proofLength
      authorizationRequired
      governance
      authorizedSubmitters := submitters environment
    }
    window := { capacity }
    verifier := { requiredConfirmations, enforceAccumulated }
  }

end Config

end HeaderRelay
