import DashboardExport.Inventory.Basic
import DashboardExport.Service.Client
import DashboardExport.Session

/-!
# Loading

A dashboard is loaded with its widgets and with every query whose results a widget
shows; a query is loaded with its visualizations.  What is loaded already is not
asked for again.

A query joins the inventory only when all its visualizations are decoded, and a
dashboard when all its widgets are.  The queries of a dashboard are loaded after
that, so when one of them fails the dashboard and the queries before it stay.
-/

set_option autoImplicit false

namespace DashboardExport

open Service

/-- The session that fetching an object is. -/
def Session.ofFetched {σ α : Type} (fetched : Fetched α) : Session σ α :=
  fun state => ⟨state, fetched.events, fetched.result⟩

namespace Inventory

/-- Adds a query that was fetched. -/
def admitQuery (query : Query) : Session Inventory Unit := do
  let inventory ← Session.state
  let entry := inventory.queryEntry query
  Session.tell (.named .query query.id query.name entry.resourceName)
  let visualizations ← Session.ofRefusal (visualizationEntries entry)
  Session.change fun inventory => inventory.addQuery entry visualizations

/-- Loads a query and its visualizations. -/
def loadQuery (fetcher : Fetcher) (id : String) : Session Inventory Unit := do
  let inventory ← Session.state
  if inventory.hasQuery id then Session.tell (.alreadyLoaded .query id)
  else
    let query ← Session.ofFetched (fetcher.query id)
    admitQuery query

/-- Loads the query that a widget shows, if it shows one. -/
def loadShown (fetcher : Fetcher) (widget : Widget) : Session Inventory Unit := do
  match ← Session.ofRefusal widget.shownQuery? with
  | none => Session.done ()
  | some id => loadQuery fetcher id

/-- Loads the queries that widgets show, in the order of the widgets. -/
def loadAllShown (fetcher : Fetcher) : List (Entry Widget) → Session Inventory Unit
  | [] => Session.done ()
  | entry :: rest => do
    loadShown fetcher entry.object
    loadAllShown fetcher rest

/-- Adds a dashboard that was fetched, with its widgets. -/
def admitDashboard (dashboard : Dashboard) : Session Inventory (List (Entry Widget)) := do
  let inventory ← Session.state
  let entry := inventory.dashboardEntry dashboard
  Session.tell (.named .dashboard dashboard.id dashboard.name entry.resourceName)
  let widgets ← Session.ofRefusal (widgetEntries entry)
  Session.change fun inventory => inventory.addDashboard entry widgets
  Session.done widgets

/-- Loads a dashboard, its widgets and the queries they show. -/
def loadDashboard (fetcher : Fetcher) (id : String) : Session Inventory Unit := do
  let inventory ← Session.state
  if inventory.hasDashboard id then Session.tell (.alreadyLoaded .dashboard id)
  else
    let dashboard ← Session.ofFetched (fetcher.dashboard id)
    let widgets ← admitDashboard dashboard
    loadAllShown fetcher widgets

/-- Loads an object of a kind. -/
def load (fetcher : Fetcher) : RemoteKind → String → Session Inventory Unit
  | .dashboard, id => loadDashboard fetcher id
  | .query, id => loadQuery fetcher id

/-- Loads objects of a kind, in order. -/
def loadEach (fetcher : Fetcher) (kind : RemoteKind) : List String → Session Inventory Unit
  | [] => Session.done ()
  | id :: rest => do
    load fetcher kind id
    loadEach fetcher kind rest

/-- Loads everything that is reached from the given roots. -/
def loadAll (fetcher : Fetcher) (kind : RemoteKind) (ids : List String) :
    Session Inventory Unit := do
  loadEach fetcher kind ids
  let inventory ← Session.state
  Session.tell (.loaded inventory.dashboards.length inventory.widgets.length
    inventory.queries.length inventory.visualizations.length)

end Inventory

end DashboardExport
