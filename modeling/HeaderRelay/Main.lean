import HeaderRelay.CommandLine.Program
import HeaderRelay.Json.Printer

/-!
# Command line

Reads the variables and files that the arguments call for, runs the program and
prints its report.
-/

namespace HeaderRelay

/-- The value of a variable that is set to a text. -/
def readVariable (name : String) : IO (String × Option Bytes) := do
  return (name, (← IO.getEnv name).map Bytes.ofString)

/-- The bytes of a file that can be read. -/
def readContents (path : String) : IO (String × Option Bytes) := do
  try
    return (path, some (← IO.FS.readBinFile path).toList)
  catch _ => return (path, none)

/-- What is stored for a name. -/
def storedValue (stored : List (String × Option Bytes)) (name : String) : Option Bytes :=
  (stored.lookup name).join

end HeaderRelay

open HeaderRelay in
def main (words : List String) : IO UInt32 := do
  let environment ← (Config.submittersVariable :: Config.requiredVariables).mapM readVariable
  let paths := (Arguments.ofWords? words).elim [] Arguments.files
  let contents ← paths.mapM readContents
  match Outcome.ofWords (storedValue environment) (storedValue contents) words with
  | .report report =>
      IO.println report.toJson.pretty
      return 0
  | .failure error =>
      IO.eprintln error.message
      return 1
  | .refusal error =>
      IO.eprintln error.message
      return 1
