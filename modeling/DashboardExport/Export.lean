import DashboardExport.Configuration.Basic
import DashboardExport.Inventory.Loading
import DashboardExport.Output

/-!
# Exports

An export loads everything that is reached from its roots, and then writes it.
Nothing is written unless everything was loaded.
-/

set_option autoImplicit false

namespace DashboardExport

open Service Storage

/-- The kind that a mode names. -/
def RemoteKind.ofMode? (mode : String) : Option RemoteKind :=
  if mode = "dashboard" then some .dashboard
  else if mode = "query" then some .query
  else none

namespace Export

/-- The kind that a mode names; any other mode is a failure. -/
def kindOfMode (mode : String) : Except Failure RemoteKind :=
  match RemoteKind.ofMode? mode with
  | some kind => .ok kind
  | none => .error (.unknownMode mode)

/-- Loads what is reached from the roots and writes it. -/
def exportFrom (fetcher : Fetcher) (configuration : Configuration) (kind : RemoteKind)
    (ids : List String) : Session FileStore (List Path) := do
  let (inventory, _) ← Session.within Inventory.empty (Inventory.loadAll fetcher kind ids)
  Output.writeAll configuration.outputDirectory configuration.skipTableDefaults inventory

/-- An export with a fetcher that is at hand.  Gives the paths written. -/
def run (fetcher : Fetcher) (configuration : Configuration) (mode : String)
    (ids : List String) : Session FileStore (List Path) := do
  let kind ← Session.ofExcept (kindOfMode mode)
  exportFrom fetcher configuration kind ids

/-- Opens a client for the workspace of a configuration. -/
def openClient (transport : Transport) (configuration : Configuration) :
    Session FileStore Client := do
  Session.tell (.opened configuration.host (some configuration.token) configuration.timeout)
  Session.ofExcept ((Client.open? configuration.host (some configuration.token)
    transport).mapError .service)

/-- An export with a client of its own.  Gives the paths written. -/
def runOnline (transport : Transport) (configuration : Configuration) (mode : String)
    (ids : List String) : Session FileStore (List Path) := do
  let kind ← Session.ofExcept (kindOfMode mode)
  let client ← openClient transport configuration
  exportFrom client.fetcher configuration kind ids

end Export

end DashboardExport
