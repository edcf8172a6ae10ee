import DashboardExport.Configuration.Basic
import DashboardExport.Configuration.Placeholder
import DashboardExport.Session
import DashboardExport.Storage.TextFile
import DashboardExport.Yaml.Value

/-!
# Loading the configuration

Settings come from four sources.  From the weakest to the strongest these are the
configuration file, a profile, the variables of the environment and what the caller
overrides.  Of host and token only the chosen ones have their placeholders
expanded.

A profile can be named by the caller, by the configuration file or by the
environment.  If nobody names one, the options that hold in all sections of the
profile file fill in what the configuration file leaves out.

The reader of the configuration file is a library of its own, so loading is defined for any
reader (`loadWith`), and used with the one in this project (`load`).
-/

set_option autoImplicit false

namespace DashboardExport.Configuration

open Storage

/-! ## The configuration file -/

/-- The entries of a mapping at the top of a YAML file; a file without anything in it has none. -/
def readMapping (reader : Yaml.FileReader) (files : FileStore) (path : Path) :
    Except Problem (List (Yaml.Value × Yaml.Value)) :=
  match files.read path with
  | .error error => .error (.unreadable path error)
  | .ok contents =>
    match reader contents with
    | .error .malformed => .error (.malformed path)
    | .error fault => .error (.unforeseen fault)
    | .ok (.map entries) => .ok entries
    | .ok value => if value.isTruthy then .error (.notMapping path) else .ok []

/-- The settings in the entries of a configuration file. -/
def settingsOf (entries : List (Yaml.Value × Yaml.Value)) : Settings :=
  .ofLookup fun name => (Yaml.Value.lookup? name entries).map Yaml.Value.toScalar

/-- Where a configuration file is looked for, in order. -/
def searchPaths : List Path :=
  [Path.ofText "config/sqlexport.yaml", Path.ofText "sqlexport.yaml"]

/-- The first of the paths that there is a file at. -/
def firstFile (files : FileStore) : List Path → Except Problem (Option Path)
  | [] => .ok none
  | path :: rest =>
    match files.checkFile path with
    | .error error => .error (.unusablePath error)
    | .ok true => .ok (some path)
    | .ok false => firstFile files rest

/-- The configuration file of the directory that the environment names, or of the working
directory. -/
def findFile (environment : Variables) (files : FileStore) : Except Problem (Option Path) :=
  let root := Path.ofText ((environment.lookup "SQLEXPORT_ROOT").getD ".")
  firstFile files (searchPaths.map root.join)

/-! ## The profile file -/

/-- Whether a text begins with the mark for a home directory. -/
def startsWithTilde (text : String) : Bool := ['~'].isPrefixOf text.toList

/-- The home directory of a user.  The user without a name is the one that the program runs for, and
the environment can give this one another home directory. -/
def homeOf (homes : Homes) (environment : Variables) (user : String) : Option String :=
  if user = "" then (environment.lookup "HOME").or homes.own? else homes.byName.lookup user

/-- The path with the home directory of a user in place of a tilde with the name of the user. -/
def atHome (homes : Homes) (environment : Variables) (path : Path) : Except Problem Path :=
  match path.anchor, path.parts with
  | .workingDirectory, first :: _ =>
    if !startsWithTilde first then .ok path
    else
      let user := first.toList.drop 1
      match Text.unencodable? Text.isUnnameable user with
      | some fault => .error (.unusablePath ⟨.unencodable fault, path⟩)
      | none =>
        if user.contains (Char.ofNat 0) then .error (.unusablePath ⟨.nulInPath, path⟩)
        else
          match (homeOf homes environment (String.ofList user)).filter (!startsWithTilde ·) with
          | some home => .ok (path.expandHome home)
          | none => .error .noHome
  | _, _ => .ok path

/-- The profile file that the given variables name, or the one in the home directory. -/
def profilePath (homes : Homes) (environment given : Variables) : Except Problem Path :=
  atHome homes environment (Path.ofText ((setVariable given "DATABRICKS_CONFIG_FILE").getD
    "~/.databrickscfg"))

/-- The profiles of a file. -/
def readProfiles (files : FileStore) (path : Path) : Except Problem Profiles :=
  match files.readText path with
  | .error (.system error) =>
    if error.fault.fromSystem then .error (.noProfileFile path) else .error (.unusablePath error)
  | .error (.encoding before) =>
    match Profiles.faultBefore? before with
    | some fault => .error (.badProfiles path fault)
    | none => .error .encoding
  | .ok text =>
    match Profiles.ofText text with
    | .error fault => .error (.badProfiles path fault)
    | .ok profiles => .ok profiles

/-- What a profile holds: host and token as far as they are there and not empty. -/
structure Profile where
  host : Option String
  token : Option String
  deriving DecidableEq

/-- The profile in a section of a profile file. -/
def Profiles.profile (profiles : Profiles) (sectionName : String) : Profile :=
  let option (name : String) := (profiles.get? sectionName name).filter fun value => !value.isEmpty
  { host := option "host", token := option "token" }

/-- Reads the profile of a name, which can be any value of a configuration file. -/
def readProfile (files : FileStore) (path : Path) (name : Yaml.Value) : Except Problem Profile := do
  let profiles ← readProfiles files path
  match name, name.literal with
  | .str sectionName, _ =>
    if profiles.hasSection sectionName then return profiles.profile sectionName
    else .error (.noProfile (Text.literal sectionName) path)
  | _, .ok shown => .error (.noProfile shown path)
  | _, .error fault => .error (.unusableProfile fault)

/-- The settings of a profile. -/
def Profile.settings (profile : Profile) : Settings :=
  { Settings.none with host := profile.host.map .text, token := profile.token.map .text }

/-! ## Putting it together -/

/-- What the caller asks for. -/
structure Wanted where
  /-- The path of the configuration file, as it is written. -/
  path : Option String
  profile : Option String
  overrides : Settings

/-- The settings of the environment. -/
def environmentSettings (given : Variables) : Settings :=
  { Settings.none with
    host := (setVariable given "DATABRICKS_HOST").map .text
    token := (setVariable given "DATABRICKS_TOKEN").map .text }

/-- A value that counts as true. -/
def truthy (value : Option Yaml.Value) : Option Yaml.Value := value.filter Yaml.Value.isTruthy

/-- The name of the profile that is used, if one is named: by the caller, the configuration file or
the environment. -/
def profileName? (wanted : Wanted) (entries : List (Yaml.Value × Yaml.Value))
    (given : Variables) : Option Yaml.Value :=
  (truthy (wanted.profile.map .str)).or ((truthy (Yaml.Value.lookup? "profile" entries)).or
    (truthy ((given.lookup "DATABRICKS_CONFIG_PROFILE").map .str)))

/-- A setting with its placeholders expanded, if it is a text. -/
def expandSetting (environment : Variables) :
    Option Decoding.Scalar → Except Problem (Option Decoding.Scalar)
  | some (.text text) => (expand environment text).map fun expanded => some (.text expanded)
  | setting => .ok setting

/-- Settings with the placeholders in host and token expanded. -/
def expandSettings (environment : Variables) (settings : Settings) : Except Problem Settings := do
  let host ← expandSetting environment settings.host
  let token ← expandSetting environment settings.token
  return { settings with host, token }

/-- The session of a step that can meet a problem. -/
def attempt {α : Type} (result : Except Problem α) : Session FileStore α :=
  Session.ofExcept (result.mapError .configuration)

/-- The entries of the configuration file; none if there is none. -/
def loadEntries (reader : Yaml.FileReader) (environment : Variables) (path : Option String) :
    Session FileStore (List (Yaml.Value × Yaml.Value)) := do
  let files ← Session.state
  let path ← match path with
    | some text => Session.done (some text)
    | none => do
      let found ← attempt (findFile environment files)
      Session.done (found.map Path.text)
  match path with
  | none => Session.done []
  | some text =>
    let entries ← attempt (readMapping reader files (Path.ofText text))
    Session.tell (.configured text)
    Session.done entries

/-- The settings of the configuration file with those of the profile. -/
def withProfile (name : Option Yaml.Value) (path : Path) (settings : Settings) :
    Session FileStore Settings := do
  let files ← Session.state
  match name with
  | some name =>
    let profile ← attempt (readProfile files path name)
    Session.tell (.profiled (name.literal.toOption.getD ""))
    Session.done (settings.withOver profile.settings)
  | none =>
    let there ← attempt ((files.checkFile path).mapError .unusablePath)
    if there then
      let profile ← attempt (readProfile files path (.str Profiles.defaultSection))
      Session.done (profile.settings.withOver settings)
    else Session.done settings

/-- Loads the configuration.  The environment names directories and fills in placeholders; the
given variables, which are usually the same, are a source of settings. -/
def loadWith (reader : Yaml.FileReader) (environment given : Variables) (wanted : Wanted) :
    Session FileStore Configuration := do
  let files ← Session.state
  let entries ← loadEntries reader environment wanted.path
  let path ← attempt (profilePath files.homes environment given)
  let settings ← withProfile (profileName? wanted entries given) path (settingsOf entries)
  let chosen := (settings.withOver (environmentSettings given)).withOver
    wanted.overrides.withoutNulls
  let expanded ← attempt (expandSettings environment chosen)
  attempt ((ofSettings expanded).mapError .invalid)

/-- Loads the configuration with the reader of this project. -/
def load (environment given : Variables) (wanted : Wanted) : Session FileStore Configuration :=
  loadWith Yaml.Value.ofFile environment given wanted

end DashboardExport.Configuration
