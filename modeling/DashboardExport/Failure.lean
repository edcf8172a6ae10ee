import DashboardExport.Configuration.Problem
import DashboardExport.Model.Refusal
import DashboardExport.Rendering.Problem
import DashboardExport.Service.Problem

/-!
# Failures

Everything that can end an export early, by its cause, with the words for it.  A
failure that is `reported` ends the command in good order, with a message and a
status of one; any other ends the program.
-/

set_option autoImplicit false

namespace DashboardExport

inductive Failure where
  | unknownMode (mode : String)
  | configuration (problem : Configuration.Problem)
  | service (problem : Service.Problem)
  | refused (refusal : Refusal)
  | rendering (problem : Rendering.Problem)
  /-- The output directory cannot be made. -/
  | directory (error : Storage.SystemError)
  /-- A file cannot be opened to be written. -/
  | write (error : Storage.SystemError)
  /-- The text of a file cannot be encoded. -/
  | unencodable (fault : Text.Unencodable)
  /-- The writing of a file is broken off. -/
  | brokenOff (path : Storage.Path) (fault : Storage.DeviceFault)
  deriving DecidableEq

namespace Failure

def message : Failure → String
  | .unknownMode mode =>
    "Unknown mode: " ++ mode ++ " (pick \"dashboard\" or \"query\")"
  | .configuration problem => problem.message
  | .service problem => problem.message
  | .refused refusal => refusal.message
  | .rendering problem => problem.message
  | .directory error => error.message
  | .write error =>
    if error.fault.fromSystem then "Cannot write " ++ error.path.text ++ ": " ++ error.message
    else error.message
  | .unencodable fault => fault.message
  | .brokenOff path fault => "Cannot write " ++ path.text ++ ": " ++ fault.message

/-- Whether a failure ends the command in good order. -/
def reported : Failure → Bool
  | .unknownMode _ => true
  | .configuration problem => problem.reported
  | .service problem => problem.reported
  | .refused refusal => refusal.reported
  | .rendering problem => problem.reported
  | .directory _ => false
  | .write error => error.fault.fromSystem
  | .unencodable _ => false
  | .brokenOff _ _ => true

end Failure

end DashboardExport
