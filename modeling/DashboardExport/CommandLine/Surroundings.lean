import DashboardExport.CommandLine.Command

/-!
# Surroundings of the command

What the outer layer needs to tie a run to a real system, as far as it can be said
without touching one: reading the environment, which files a run may read, what a
run changed, and carrying requests.

A run is a function of the replies to its requests.  So requests are carried by
running again with one more reply each time, until no request is without one; the
run before a request is the same each time, because it does not depend on the
replies that come later.
-/

set_option autoImplicit false

namespace DashboardExport.CommandLine

open DashboardExport.Configuration Storage

/-! ## Environment and files -/

/-- The variable in an entry of an environment block. -/
def variableOfEntry (entry : List Char) : Option (String × String) :=
  match splitSign entry with
  | (name, some value) => some (String.ofList name, String.ofList value)
  | _ => none

/-- The variables in an environment block, whose entries end in zero characters. -/
def variablesOfBlock (block : String) : Variables :=
  (Text.splitAtEvery (· == Char.ofNat 0) block.toList).filterMap variableOfEntry

/-- The files that a run may read, apart from those that the configuration file leads to. -/
def readablePaths (usage : Usage) (environment : Variables) : List Path :=
  match usage with
  | .export arguments =>
    let root := Path.ofText ((environment.lookup "SQLEXPORT_ROOT").getD ".")
    let files := match arguments.configPath with
      | some path => [Path.ofText path]
      | none => searchPaths.map root.join
    files ++ (profilePath {} environment environment).toOption.toList
  | _ => []

/-- A store with an entry at a location, in directories that are there. -/
def withEntry (files : FileStore) (location : Location) (entry : Stored) : FileStore :=
  let directories := (List.range location.length).filterMap fun depth =>
    if depth = 0 then none else some (location.take depth, Stored.directory)
  let known := directories.filter fun directory => (files.find? directory.1).isNone
  { files with entries := files.entries ++ known ++ [(location, entry)] }

/-- A store that holds the working directory only. -/
def storeAt (workingDirectory : Location) : FileStore :=
  withEntry { entries := [], workingDirectory } workingDirectory .directory

/-- What a run changed: the entries that are new or different, outer ones first. -/
def changes (before after : FileStore) : List (Location × Stored) :=
  after.entries.filter fun entry => before.find? entry.1 != some entry.2

/-- The text of a location. -/
def locationText (location : Location) : String := "/" ++ "/".intercalate location

/-! ## Requests -/

/-- A request with its reply. -/
structure Exchange where
  request : Request
  reply : Service.Reply

/-- The transport that knows the replies so far. -/
def transportOf (exchanges : List Exchange) : Service.Transport := fun request =>
  match exchanges.find? fun exchange => exchange.request = request with
  | some exchange => exchange.reply
  | none => .broken "no reply"

/-- The first request of a run that has no reply yet. -/
def unanswered? (exchanges : List Exchange) (events : List Event) : Option Request :=
  (events.filterMap Event.request?).find? fun request =>
    !exchanges.any fun exchange => exchange.request = request

/-- A request as one line. -/
def requestLine (request : Request) : String :=
  (Json.obj [("method", .str "GET"), ("url", .str request.address.text),
    ("authorization", (request.authorization.map Json.str).getD .null)]).inline

/-- The reply in a line: a status and the text of a body, or the reason why there are none. -/
def replyOfLine (line : String) : Service.Reply :=
  match Json.parse? line with
  | some (.obj members) =>
    match members.lookup "status", members.lookup "body", members.lookup "broken" with
    | some (.int status), some (.str body), _ => .response status.toNat body.toUTF8.toList
    | _, _, some (.str reason) => .broken reason
    | _, _, _ => .broken "no reply"
  | _ => .broken "no reply"

/-! ## Messages -/

/-- The word for a level. -/
def levelWord : Level → String
  | .debug => "DEBUG"
  | .info => "INFO"
  | .error => "ERROR"

/-- A message of the log as one line. -/
def logLine (event : Event) : Option String :=
  event.logEntry?.map fun entry => "[" ++ levelWord entry.2.1 ++ "] " ++ entry.2.2

/-- How the command is used. -/
def usageText : String :=
  "usage: " ++ commandName ++ " [-h] [--mode MODE] [--profile PROFILE] [--config CONFIG]\n" ++
  "                 [--output-dir OUTPUT_DIR] [--keep-table-defaults] [-v]\n" ++
  "                 ID [ID ...]"

end DashboardExport.CommandLine
