import HeaderRelay.CommandLine.Word
import HeaderRelay.Config.Environment

/-!
# Arguments

What a command line asks for.  Some options are global: they may stand before
and behind the name of the command, and those behind it count.
-/

namespace HeaderRelay

/-- What the program can do. -/
inductive Command where
  /-- Describes a header. -/
  | header (header : String)
  /-- Checks a Merkle branch. -/
  | merkle (txid root branch : String) (index : UInt64)
  /-- Judges a chain of headers by two difficulties. -/
  | chain (headers : String) (previous current : UInt64)
  /-- Verifies the proof in a file against a relay that starts with a header and
  then goes through retargets. -/
  | verify (genesis : String) (height : Height) (proofLength : Option Nat)
      (retargets : List String) (submitter : Option String) (proof : String)
  deriving DecidableEq, Repr

structure Arguments where
  command : Command
  configFile : Option String := none
  network : Option Network := none
  verbosity : UInt8 := 3
  deriving DecidableEq, Repr

namespace CommandLine

/-- The options of every command. -/
def globalFlags : List Flag :=
  [{ name := "config-file", letter := some 'c' }, { name := "network", letter := some 'n' },
    { name := "verbose", letter := some 'v' }]

/-- The options of a command beyond the global ones, `none` if there is no such
command. -/
def flagsOf? : (command : String) → Option (List Flag)
  | "header" => some []
  | "merkle" => some [⟨"tx-hash", none, false⟩, ⟨"root", none, false⟩,
      ⟨"proof", none, false⟩, ⟨"index", none, false⟩]
  | "chain" => some [⟨"headers", none, false⟩, ⟨"previous-difficulty", none, false⟩,
      ⟨"current-difficulty", none, false⟩]
  | "verify" => some [⟨"genesis-header", none, false⟩, ⟨"genesis-height", none, false⟩,
      ⟨"proof-length", none, false⟩, ⟨"retarget", none, true⟩, ⟨"submitter", none, false⟩]
  | _ => none

/-- Reads a number from zero to `limit` that fits in a signed 64-bit word. -/
def small? (limit : Nat) (text : String) : Option Nat := do
  let value ← (Text.readInt Int64.maxValue.toNatClampNeg text).toOption
  if 0 ≤ value ∧ value ≤ limit then return value.toNat else none

/-- Reads a 64-bit word. -/
def long? (text : String) : Option UInt64 :=
  ((Text.readNat (UInt64.size - 1) text).map UInt64.ofNat).toOption

/-- Reads a path, which cannot be empty. -/
def path? (text : String) : Option String :=
  if text.isEmpty then none else some text

/-- Reads the value of an option if it is given. -/
def optional? {α : Type} (read : String → Option α) (name : String) (given : List Given) :
    Option (Option α) :=
  match valueOf? name given with
  | none => some none
  | some value => (read value).map some

/-- The values of the global options. -/
structure Globals where
  configFile : Option String
  network : Option Network
  verbosity : Option UInt8

namespace Globals

def ofGiven? (given : List Given) : Option Globals := do
  return {
    configFile := ← optional? path? "config-file" given
    network := ← optional? Network.ofName? "network" given
    verbosity := ← optional? (fun text => (small? 255 text).map UInt8.ofNat) "verbose" given
  }

/-- The values behind the command, where there are any, and else those before
it. -/
def behind (before after : Globals) : Globals where
  configFile := after.configFile <|> before.configFile
  network := after.network <|> before.network
  verbosity := after.verbosity <|> before.verbosity

end Globals

/-- The command of a name with its options and operands. -/
def command? (name : String) (given : List Given) (operands : List String) :
    Option Command := do
  let value := fun name => valueOf? name given
  match name, operands with
  | "header", [header] => return .header header
  | "merkle", [] =>
      return .merkle (← value "tx-hash") (← value "root") ((value "proof").getD "")
        (← long? (← value "index"))
  | "chain", [] =>
      return .chain (← value "headers") (← long? (← value "previous-difficulty"))
        (← long? (← value "current-difficulty"))
  | "verify", [proof] =>
      let proofLength := fun text => (Config.readSize text).toOption
      return .verify (← value "genesis-header")
        (UInt32.ofNat (← small? (UInt32.size - 1) (← value "genesis-height")))
        (← optional? proofLength "proof-length" given) (valuesOf "retarget" given)
        (value "submitter") (← path? proof)
  | _, _ => none

end CommandLine

namespace Arguments

open CommandLine

/-- The arguments that the words of a command line give, if they are complete
and every option exists and has a proper value. -/
def ofWords? (words : List String) : Option Arguments := do
  let (before, rest) ← takeOptions globalFlags words
  match rest with
  | [] => none
  | name :: rest =>
      let sorted ← Sorted.ofWords (globalFlags ++ (← flagsOf? name)) rest
      if !(areSingle before && areSingle sorted.options) then none
      let globals := (← Globals.ofGiven? before).behind (← Globals.ofGiven? sorted.options)
      return {
        command := ← command? name sorted.options sorted.operands
        configFile := globals.configFile
        network := globals.network
        verbosity := globals.verbosity.getD 3
      }

/-- Reads the words of a command line behind the name of the program. -/
def parse (words : List String) : Except ConfigError Arguments :=
  match ofWords? words with
  | some arguments => .ok arguments
  | none => .error .invalidArguments

/-- The files that the program reads. -/
def files (arguments : Arguments) : List String :=
  let proofs :=
    match arguments.command with
    | .verify _ _ _ _ _ proof => [proof]
    | _ => []
  arguments.configFile.toList ++ proofs

end Arguments

end HeaderRelay
