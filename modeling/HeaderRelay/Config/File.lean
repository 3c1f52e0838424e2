import HeaderRelay.Config
import HeaderRelay.Error
import HeaderRelay.Toml.Document

/-!
# Configuration files

A file has a table for each group of settings and need only name the settings
it changes.  Unknown names are ignored.  A group may also be written as an array
with its settings in order.
-/

namespace HeaderRelay

namespace Toml

/-- The values of the given names in a group: by name in a table, by position
in an array. Dates and times count as groups without known names. -/
def fields? (names : List String) : Toml → Option (List (Option Toml))
  | .table _ members => some (names.map fun name => members.lookup name)
  | .array items => some ((List.range names.length).map (items[·]?))
  | .tables elements =>
      some ((List.range names.length).map fun position =>
        elements[position]?.map (.table .header))
  | .moment => some (names.map fun _ => none)
  | _ => none

/-- A text. -/
def text? : Toml → Option String
  | .string text => some text
  | _ => none

/-- Yes or no. -/
def flag? : Toml → Option Bool
  | .boolean value => some value
  | _ => none

/-- A number from zero to `limit`. -/
def number? (limit : Nat) : Toml → Option Nat
  | .integer value =>
      if 0 ≤ value && value ≤ limit then some value.toNat else none
  | _ => none

/-- A word of 64 bits. -/
def word? (toml : Toml) : Option UInt64 :=
  (toml.number? (UInt64.size - 1)).map UInt64.ofNat

/-- A list of texts. -/
def texts? : Toml → Option (List String)
  | .array items => items.mapM text?
  | _ => none

/-- Whether this holds nothing. -/
def isVoid : Toml → Bool
  | .table _ members => members.isEmpty
  | .array items => items.isEmpty
  | .tables elements => elements.isEmpty
  | _ => false

/-- A network by its name, or by a table with the name alone and nothing
in it. -/
def network? : Toml → Option Network
  | .string name => Network.ofName? name
  | .table _ [(name, content)] => if content.isVoid then Network.ofName? name else none
  | _ => none

/-- The value of a setting, `default` if it is not given. -/
def setting {α : Type} (default : α) (decode : Toml → Option α) : Option Toml → Option α
  | none => some default
  | some value => decode value

end Toml

open Toml (setting)

def RelayConfig.ofToml? (toml : Toml) : Option RelayConfig := do
  let default : RelayConfig := {}
  match ← toml.fields? ["network", "proof_length", "authorization_required", "governance",
      "authorized_submitters"] with
  | [network, length, required, governance, submitters] =>
      return {
        network := ← setting default.network Toml.network? network
        proofLength := ← setting default.proofLength (Toml.number? Config.maxSize) length
        authorizationRequired :=
          ← setting default.authorizationRequired Toml.flag? required
        governance := ← setting default.governance Toml.text? governance
        authorizedSubmitters :=
          ← setting default.authorizedSubmitters Toml.texts? submitters
      }
  | _ => none

def WindowConfig.ofToml? (toml : Toml) : Option WindowConfig := do
  let default : WindowConfig := {}
  match ← toml.fields? ["capacity"] with
  | [capacity] =>
      return { capacity := ← setting default.capacity (Toml.number? Config.maxSize) capacity }
  | _ => none

def VerifierConfig.ofToml? (toml : Toml) : Option VerifierConfig := do
  let default : VerifierConfig := {}
  match ← toml.fields? ["required_confirmations", "enforce_accumulated_difficulty"] with
  | [confirmations, enforce] =>
      return {
        requiredConfirmations :=
          ← setting default.requiredConfirmations
            (fun value => (value.number? (UInt32.size - 1)).map UInt32.ofNat) confirmations
        enforceAccumulated := ← setting default.enforceAccumulated Toml.flag? enforce
      }
  | _ => none

def ProviderConfig.ofToml? (toml : Toml) : Option ProviderConfig := do
  let default : ProviderConfig := {}
  match ← toml.fields? ["initial_delay_millis", "max_delay_secs", "max_attempts",
      "backoff_multiplier", "jitter"] with
  | [initial, longest, attempts, multiplier, jitter] =>
      return {
        initialDelayMillis := ← setting default.initialDelayMillis Toml.word? initial
        maxDelaySecs := ← setting default.maxDelaySecs Toml.word? longest
        maxAttempts := ← setting default.maxAttempts (Toml.number? Config.maxSize) attempts
        backoffMultiplier := ← setting default.backoffMultiplier Toml.word? multiplier
        jitter := ← setting default.jitter Toml.flag? jitter
      }
  | _ => none

namespace Config

/-- The settings that a document gives. -/
def ofToml? (document : Toml.Members) : Option Config := do
  return {
    relay := ← setting {} RelayConfig.ofToml? (document.lookup "relay")
    window := ← setting {} WindowConfig.ofToml? (document.lookup "window")
    verifier := ← setting {} VerifierConfig.ofToml? (document.lookup "verifier")
    provider := ← setting {} ProviderConfig.ofToml? (document.lookup "provider")
  }

/-- Reads the text of a configuration file. -/
def parse (text : String) : Except ConfigError Config :=
  match (Toml.parse? text).bind ofToml? with
  | some config => .ok config
  | none => .error .invalidConfiguration

/-- Reads a configuration file, the bytes of which are missing if there is no
such file. -/
def ofFile (path : String) (contents : Option Bytes) : Except ConfigError Config :=
  match contents.bind Bytes.toString? with
  | some text => parse text
  | none => .error (.unreadableFile path)

end Config

end HeaderRelay
