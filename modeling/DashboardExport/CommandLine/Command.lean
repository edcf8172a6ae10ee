import DashboardExport.CommandLine.Arguments
import DashboardExport.Configuration.Loading
import DashboardExport.Export

/-!
# The command

The command reads its arguments, loads the configuration and exports.  A failure of
a kind that is expected is told and ends the command with status one; any other ends
it without an answer.
-/

set_option autoImplicit false

namespace DashboardExport.CommandLine

open DashboardExport.Configuration Storage

/-- The name of the command. -/
def commandName : String := "sqlexport"

/-- The line that says why arguments are refused. -/
def usageLine (problem : UsageFault) : String := commandName ++ ": error: " ++ problem.message

/-- How the command ends. -/
inductive CommandEnding where
  /-- Help was asked for. -/
  | helped
  | misused (problem : UsageFault)
  | finished
  /-- With a failure that was told. -/
  | failed (failure : Failure)
  /-- With a failure that no one expects. -/
  | broken (failure : Failure)
  deriving DecidableEq

/-- The status that the command exits with, if it comes to that. -/
def CommandEnding.status? : CommandEnding → Option Nat
  | .helped => some 0
  | .misused _ => some 2
  | .finished => some 0
  | .failed _ => some 1
  | .broken _ => none

/-- What the command leaves behind. -/
structure CommandResult where
  files : FileStore
  events : List Event
  ending : CommandEnding

namespace Arguments

/-- The settings that the arguments override. -/
def overrides (arguments : Arguments) : Settings :=
  { Settings.none with
    outputDirectory := arguments.outputDirectory.map .text
    skipTableDefaults := if arguments.keepTableDefaults then some (.bool false) else none }

/-- The configuration that the arguments ask for. -/
def wanted (arguments : Arguments) : Wanted where
  path := arguments.configPath
  profile := arguments.profile
  overrides := arguments.overrides

/-- The session of an export with the arguments. -/
def session (arguments : Arguments) (environment : Variables) (transport : Service.Transport) :
    Session FileStore Unit := do
  let _ ← Session.ofExcept (Export.kindOfMode arguments.mode)
  let configuration ← Configuration.load environment environment arguments.wanted
  let paths ← Export.runOnline transport configuration arguments.mode arguments.ids
  Session.tell (.finished paths.length)

/-- The level from which on messages are shown. -/
def level (arguments : Arguments) : Level := if arguments.verbose then .debug else .info

end Arguments

/-- What the end of a session comes to. -/
def CommandResult.ofEnding (ending : Ending FileStore Unit) : CommandResult :=
  match ending.result with
  | .ok () => ⟨ending.state, ending.events, .finished⟩
  | .error failure =>
    if failure.reported then
      ⟨ending.state, ending.events ++ [.failed failure], .failed failure⟩
    else ⟨ending.state, ending.events, .broken failure⟩

/-- Runs the command. -/
def run (usage : Usage) (environment : Variables) (transport : Service.Transport)
    (files : FileStore) : CommandResult :=
  match usage with
  | .help => ⟨files, [], .helped⟩
  | .fault problem => ⟨files, [], .misused problem⟩
  | .export arguments => .ofEnding (arguments.session environment transport files)

/-! ## The log -/

/-- Whether a message of a level is shown. -/
def isShown (threshold : Level) : Level → Bool
  | .debug => threshold == .debug
  | _ => true

/-- The level of the log that the arguments ask for. -/
def Usage.level : Usage → Level
  | .export arguments => arguments.level
  | _ => .info

/-- The events that are logged from a level on. -/
def logged (threshold : Level) (events : List Event) : List Event :=
  events.filter fun event =>
    match event.logEntry? with
    | some (_, level, _) => isShown threshold level
    | none => false

end DashboardExport.CommandLine
