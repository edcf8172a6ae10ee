import DashboardExport.Failure

/-!
# Events

What an export tells while it runs: the requests it makes, the clients it opens,
and the messages of its log, each with the part of the program it comes from and a
level.
-/

set_option autoImplicit false

namespace DashboardExport

/-- A request for an object of the service. -/
structure Request where
  address : Service.Address
  authorization : Option String
  deriving DecidableEq

inductive Event where
  /-- A client is opened for a workspace. -/
  | opened (host : String) (token : Option String) (timeout : Binary64)
  | requested (request : Request)
  | fetching (kind : RemoteKind) (id : String)
  | alreadyLoaded (kind : RemoteKind) (id : String)
  /-- An object got its resource name. -/
  | named (kind : RemoteKind) (id displayName resourceName : String)
  | loaded (dashboards widgets queries visualizations : Nat)
  | rendering (kind : RemoteKind) (resourceName : String)
  | wrote (path : Storage.Path)
  /-- A configuration file was read; its path is given as it was asked for. -/
  | configured (path : String)
  /-- A profile is used; its name is given as messages show it. -/
  | profiled (shown : String)
  | failed (failure : Failure)
  | finished (files : Nat)
  deriving DecidableEq

inductive Level where
  | debug
  | info
  | error
  deriving DecidableEq

/-- The parts of the program that write messages. -/
inductive Component where
  | command
  | configuration
  | service
  | inventory
  | rendering
  | output
  deriving DecidableEq

/-- The log entry of an event: where it comes from, its level and its message.  Requests and clients
have none. -/
def Event.logEntry? : Event → Option (Component × Level × String)
  | .opened .. => none
  | .requested _ => none
  | .fetching kind id => some (.service, .debug, "GET /" ++ kind.plural ++ "/" ++ id)
  | .alreadyLoaded kind id =>
    some (.inventory, .debug, "[" ++ kind.noun ++ " " ++ id ++ "] already loaded")
  | .named kind id displayName resourceName =>
    some (.inventory, .info, "[" ++ kind.noun ++ " " ++ id ++ "] " ++ Text.literal displayName ++
      " -> " ++ resourceName)
  | .loaded dashboards widgets queries visualizations =>
    some (.command, .info, "已加载 " ++ toString dashboards ++ " 个 dashboard, " ++ toString widgets ++
      " 个 widget, " ++ toString queries ++ " 个 query, " ++ toString visualizations ++
      " 个 visualization")
  | .rendering kind resourceName =>
    some (.rendering, .debug, "Rendering " ++ kind.noun ++ " " ++ resourceName)
  | .wrote path => some (.output, .info, "Wrote " ++ path.text)
  | .configured path => some (.configuration, .debug, "Loaded config from " ++ path)
  | .profiled shown => some (.configuration, .debug, "Using profile " ++ shown)
  | .failed failure => some (.command, .error, failure.message)
  | .finished files => some (.command, .info, "完成! 写入 " ++ toString files ++ " 个文件")

/-- The request of an event. -/
def Event.request? : Event → Option Request
  | .requested request => some request
  | _ => none

end DashboardExport
