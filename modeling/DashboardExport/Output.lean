import DashboardExport.Rendering.Dashboard
import DashboardExport.Session

/-!
# Output files

Every query and every dashboard of an inventory goes into a file of its own, named
after its resource.  The queries come first.  A text is rendered just before it is
written, so when one cannot be rendered or written the files before it are there
and those after it are not.

A text is encoded when its file is already open.  So a file whose text cannot be encoded
stays behind empty, and one whose writing is broken off stays behind with a part of its
text.
-/

set_option autoImplicit false

namespace DashboardExport

open Storage

/-- A text that is written to a file of its own. -/
structure Output where
  kind : RemoteKind
  resourceName : String
  text : Except Failure String

namespace Output

/-- The name of the file of an output. -/
def fileName (kind : RemoteKind) (resourceName : String) : String :=
  kind.noun ++ "_" ++ resourceName ++ ".tf"

/-- The path of an output in a directory. -/
def path (directory : Path) (output : Output) : Path :=
  directory.child (fileName output.kind output.resourceName)

/-- The outputs of an inventory, in the order in which they are written. -/
def ofInventory (skipDefaults : Bool) (inventory : Inventory) : List Output :=
  inventory.queries.map (fun entry =>
    ⟨.query, entry.resourceName, Rendering.renderQuery skipDefaults inventory entry⟩) ++
  inventory.dashboards.map (fun entry =>
    ⟨.dashboard, entry.resourceName, Rendering.renderDashboard inventory entry⟩)

/-- Puts contents into the file at a path, which is open at a location. -/
def fill (path : Path) (location : Location) (contents : List UInt8) :
    Session FileStore Unit := do
  let files ← Session.state
  let (filled, fault?) := files.fill location contents
  Session.change fun _ => filled
  match fault? with
  | some fault => Session.fail (.brokenOff path fault)
  | none => Session.done ()

/-- Writes a text to a file. -/
def save (path : Path) (text : String) : Session FileStore Unit := do
  let files ← Session.state
  let (opened, location) ← Session.ofExcept ((files.openFile path).mapError .write)
  Session.change fun _ => opened
  let contents ← Session.ofExcept ((Text.encodeUtf8 text).mapError .unencodable)
  fill path location contents
  Session.tell (.wrote path)

/-- Renders and writes an output. -/
def write (directory : Path) (output : Output) : Session FileStore Path := do
  Session.tell (.rendering output.kind output.resourceName)
  let text ← Session.ofExcept output.text
  save (output.path directory) text
  Session.done (output.path directory)

/-- Renders and writes outputs, in order. -/
def writeEach (directory : Path) : List Output → Session FileStore (List Path)
  | [] => Session.done []
  | output :: rest => do
    let path ← write directory output
    let paths ← writeEach directory rest
    Session.done (path :: paths)

/-- Makes a directory with the directories above it.  Those that could be made stay when one cannot
be. -/
def prepare (directory : Path) : Session FileStore Unit := fun files =>
  match files.ensureDirectories directory with
  | (made, none) => ⟨made, [], .ok ()⟩
  | (made, some error) => ⟨made, [], .error (.directory error)⟩

/-- Writes everything in an inventory to a directory. -/
def writeAll (directory : Path) (skipDefaults : Bool) (inventory : Inventory) :
    Session FileStore (List Path) := do
  prepare directory
  writeEach directory (ofInventory skipDefaults inventory)

end Output

end DashboardExport
