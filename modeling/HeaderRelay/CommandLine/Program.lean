import HeaderRelay.CommandLine.Report
import HeaderRelay.Config.File

/-!
# The program

The settings come from the environment if it gives all of them, else from the
configuration file, else they are the defaults.  A variable that is set to an
unusable text ends the program.
-/

namespace HeaderRelay

namespace Config

/-- The settings that the program runs with. -/
def choose (environment : Environment) (files : Files) (configFile : Option String) :
    Except ConfigError Config :=
  match ofEnvironment environment with
  | .error (.unsetVariable _) =>
      match configFile with
      | some path => ofFile path (files path)
      | none => .ok {}
  | decided => decided

/-- The settings with another network, if one is given. -/
def onNetwork (config : Config) : Option Network → Config
  | none => config
  | some network => { config with relay := { config.relay with network } }

end Config

/-- How a run of the program ends. -/
inductive Outcome where
  | report (report : Report)
  /-- The command failed. -/
  | failure (error : Error)
  /-- There was nothing to carry out, since the arguments or the settings cannot
  be used. -/
  | refusal (error : ConfigError)
  deriving DecidableEq

namespace Outcome

/-- Carries out what a command line asks for. -/
def ofWords (environment : Environment) (files : Files) (words : List String) : Outcome :=
  let prepared := do
    let arguments ← Arguments.parse words
    let config ← Config.choose environment files arguments.configFile
    return (arguments.command, config.onNetwork arguments.network)
  match prepared with
  | .error error => .refusal error
  | .ok (command, config) =>
      match command.run files config with
      | .ok found => .report found
      | .error error => .failure error

end Outcome

end HeaderRelay
