import DashboardExport.Decoding.Outcome
import DashboardExport.Decoding.Scalar
import DashboardExport.Storage.Path

/-!
# The configuration

What an export needs to know: the workspace and the token for it, how long to wait
for an answer, where the output goes, and whether the default settings of table
columns are left out.

Settings are what the sources of a configuration give, of whatever type.
`Configuration.ofSettings` makes a configuration of them, or says which settings do
not fit.  A host that is given as text without a scheme gets one; host and token
have to be there.
-/

set_option autoImplicit false

namespace DashboardExport

open Decoding

/-- A configuration that an export can run with. -/
structure Configuration where
  host : String
  token : String
  /-- How long to wait for an answer, in seconds. -/
  timeout : Binary64
  outputDirectory : Storage.Path
  skipTableDefaults : Bool
  deriving DecidableEq

/-- The settings that are given.  One that is given as null is there all the same. -/
structure Settings where
  host : Option Scalar
  token : Option Scalar
  timeout : Option Scalar
  outputDirectory : Option Scalar
  skipTableDefaults : Option Scalar

namespace Settings

/-- No settings. -/
def none : Settings := ⟨.none, .none, .none, .none, .none⟩

/-- Settings by the names that sources give them. -/
def ofLookup (find? : String → Option Scalar) : Settings where
  host := find? "host"
  token := find? "token"
  timeout := find? "timeout"
  outputDirectory := find? "output_dir"
  skipTableDefaults := find? "skip_table_defaults"

/-- Settings with stronger ones over them: what those give counts. -/
def withOver (settings stronger : Settings) : Settings where
  host := stronger.host.or settings.host
  token := stronger.token.or settings.token
  timeout := stronger.timeout.or settings.timeout
  outputDirectory := stronger.outputDirectory.or settings.outputDirectory
  skipTableDefaults := stronger.skipTableDefaults.or settings.skipTableDefaults

/-- A setting, unless it is null. -/
def nonNull : Option Scalar → Option Scalar
  | some .null => .none
  | setting => setting

/-- The settings that are not null. -/
def withoutNulls (settings : Settings) : Settings where
  host := nonNull settings.host
  token := nonNull settings.token
  timeout := nonNull settings.timeout
  outputDirectory := nonNull settings.outputDirectory
  skipTableDefaults := nonNull settings.skipTableDefaults

end Settings

namespace Configuration

/-! ## Defaults -/

def defaultTimeout : Binary64 := Binary64.ofInt 30

def defaultOutputDirectory : Storage.Path := ⟨.workingDirectory, []⟩

def defaultSkipTableDefaults : Bool := true

/-! ## Reading settings -/

/-- Whether a text holds a colon and two slashes. -/
def hasSchemeMark : List Char → Bool
  | [] => false
  | c :: rest => [':', '/', '/'].isPrefixOf (c :: rest) || hasSchemeMark rest

/-- A host with a scheme.  The empty one stays empty. -/
def withScheme (host : String) : String :=
  if host.isEmpty || hasSchemeMark host.toList then host else "https://" ++ host

/-- A host given as text gets a scheme. -/
def schemed : Scalar → Scalar
  | .text host => .text (withScheme host)
  | setting => setting

/-- Reads a text that may be null. -/
def readText : Scalar → Except Fault (Option String)
  | .null => .ok none
  | setting => setting.string.map some

/-- Reads a path. -/
def readPath : Scalar → Except Fault Storage.Path
  | .text text => .ok (Storage.Path.ofText text)
  | _ => .error .notPath

/-- A setting under its name, or its default. -/
def readSetting {α : Type} (name : String) (default : α) (read : Scalar → Except Fault α) :
    Option Scalar → Outcome α
  | none => .value default
  | some setting =>
    match read setting with
    | .ok value => .value value
    | .error fault => .invalid [⟨[.key name], fault⟩]

/-- A configuration in which host and token may be missing. -/
structure Draft where
  host : Option String
  token : Option String
  timeout : Binary64
  outputDirectory : Storage.Path
  skipTableDefaults : Bool

/-- The draft that settings give. -/
def Draft.ofSettings (settings : Settings) : Outcome Draft :=
  Draft.mk <$> readSetting "host" none (fun setting => readText (schemed setting)) settings.host
    <*> readSetting "token" none readText settings.token
    <*> readSetting "timeout" defaultTimeout Scalar.number settings.timeout
    <*> readSetting "output_dir" defaultOutputDirectory readPath settings.outputDirectory
    <*> readSetting "skip_table_defaults" defaultSkipTableDefaults Scalar.boolean
      settings.skipTableDefaults

/-- The words for a missing host. -/
def missingHost : String :=
  "workspace host is not configured (set DATABRICKS_HOST or use a profile)"

/-- The words for a missing token. -/
def missingToken : String :=
  "access token is not configured (set DATABRICKS_TOKEN or use a profile)"

/-- The configuration of a draft with host and token. -/
def Draft.complete (draft : Draft) : Except (List Issue) Configuration :=
  let host := draft.host.getD ""
  let token := draft.token.getD ""
  if host.isEmpty then .error [⟨[], .ruleBroken missingHost⟩]
  else if token.isEmpty then .error [⟨[], .ruleBroken missingToken⟩]
  else .ok {
    host, token
    timeout := draft.timeout
    outputDirectory := draft.outputDirectory
    skipTableDefaults := draft.skipTableDefaults }

/-- The configuration that settings give, or what is wrong with them. -/
def ofSettings (settings : Settings) : Except (List Issue) Configuration :=
  match Draft.ofSettings settings with
  | .value draft => draft.complete
  | .invalid issues => .error issues
  | .rejected _ => .error []

end Configuration

end DashboardExport
