import DashboardExport.Model.Dashboard
import DashboardExport.Model.Query
import DashboardExport.Model.Refusal
import DashboardExport.Model.Visualization
import DashboardExport.Naming
import DashboardExport.Text.Lowercase

/-!
# The inventory

The objects loaded in one run, each under its resource name.  The four collections
only ever grow, and they are rendered in the order in which they were loaded.

A widget belongs to a dashboard, and a visualization to a query, by the remote id
that it was given when it was loaded.
-/

set_option autoImplicit false

namespace DashboardExport

/-- An object with its id in the service and its name in the output. -/
structure Entry (α : Type) where
  remoteId : String
  resourceName : String
  object : α
  deriving DecidableEq

/-- The objects loaded so far, in the order in which they were found. -/
structure Inventory where
  dashboards : List (Entry Dashboard)
  widgets : List (Entry Widget)
  queries : List (Entry Query)
  visualizations : List (Entry Visualization)
  deriving DecidableEq

namespace Inventory

/-- The inventory before anything is loaded. -/
def empty : Inventory := ⟨[], [], [], []⟩

/-! ## Lookups -/

def hasDashboard (inventory : Inventory) (id : String) : Bool :=
  inventory.dashboards.any fun entry => entry.remoteId == id

def hasQuery (inventory : Inventory) (id : String) : Bool :=
  inventory.queries.any fun entry => entry.remoteId == id

/-- The widgets of a dashboard. -/
def widgetsFor (inventory : Inventory) (dashboard : Entry Dashboard) : List (Entry Widget) :=
  inventory.widgets.filter fun entry => entry.object.dashboardId == dashboard.remoteId

/-- The visualizations of a query. -/
def visualizationsFor (inventory : Inventory) (query : Entry Query) :
    List (Entry Visualization) :=
  inventory.visualizations.filter fun entry => entry.object.queryId == query.remoteId

/-- The first visualization with an id. -/
def findVisualization (inventory : Inventory) (id : String) : Option (Entry Visualization) :=
  inventory.visualizations.find? fun entry => entry.remoteId == id

/-! ## New entries -/

/-- The entry of a dashboard that joins the inventory. -/
def dashboardEntry (inventory : Inventory) (dashboard : Dashboard) : Entry Dashboard where
  remoteId := dashboard.id
  resourceName := Naming.fresh (Naming.canonical dashboard.name)
    (inventory.dashboards.map Entry.resourceName)
  object := dashboard

/-- The entry of a query that joins the inventory. -/
def queryEntry (inventory : Inventory) (query : Query) : Entry Query where
  remoteId := query.id
  resourceName := Naming.fresh (Naming.canonical query.name)
    (inventory.queries.map Entry.resourceName)
  object := query

/-- The inventory with another dashboard and its widgets. -/
def addDashboard (inventory : Inventory) (entry : Entry Dashboard)
    (widgets : List (Entry Widget)) : Inventory :=
  { inventory with
    dashboards := inventory.dashboards ++ [entry]
    widgets := inventory.widgets ++ widgets }

/-- The inventory with another query and its visualizations. -/
def addQuery (inventory : Inventory) (entry : Entry Query)
    (visualizations : List (Entry Visualization)) : Inventory :=
  { inventory with
    queries := inventory.queries ++ [entry]
    visualizations := inventory.visualizations ++ visualizations }

end Inventory

/-! ## Names of the parts -/

/-- The name of a visualization of a given type: it ends in the type, and in the number of earlier
ones of that type if the type occurs more than once. -/
def visualizationName (queryName type : String) (earlier all : List String) : String :=
  let name := queryName ++ "_" ++ type
  if all.count type = 1 then name else Naming.numbered name (earlier.count type)

/-- The names of visualizations of the given types, where others of a query come before them. -/
def visualizationNamesFrom (queryName : String) (all : List String) :
    List String → List String → List String
  | _, [] => []
  | earlier, type :: rest =>
    visualizationName queryName type earlier all ::
      visualizationNamesFrom queryName all (earlier ++ [type]) rest

/-- The names of the visualizations of a query by their types. -/
def visualizationNames (queryName : String) (types : List String) : List String :=
  visualizationNamesFrom queryName types [] types

/-- The type of a visualization, in lower case. -/
def Visualization.lowerType (visualization : Visualization) : String :=
  Text.lower visualization.type

/-! ## Parts that are decoded late -/

/-- A payload that is there: null counts as none. -/
def present? : Option Json → Option Json
  | some .null => none
  | payload => payload

/-- The visualization in a payload. -/
def decodeVisualization (payload : Json) : Except Refusal Visualization :=
  Refusal.ofOutcome (.part "Visualization") (Visualization.decode payload)

/-- The entry of a widget at a position on a dashboard. -/
def widgetEntry (dashboard : Entry Dashboard) (position : Nat) (payload : Json) :
    Except Refusal (Entry Widget) := do
  let widget ← Refusal.ofOutcome (.part "Widget") (Widget.decode payload)
  let visualizationId ← match present? widget.visualization with
    | none => pure widget.visualizationId
    | some shown => pure (some (← decodeVisualization shown).id)
  return {
    remoteId := widget.id
    resourceName := Naming.numbered dashboard.resourceName position
    object := { widget with dashboardId := dashboard.remoteId, visualizationId } }

/-- The entries of a dashboard's widgets from a position on. -/
def widgetEntriesFrom (dashboard : Entry Dashboard) :
    Nat → List Json → Except Refusal (List (Entry Widget))
  | _, [] => .ok []
  | position, payload :: rest => do
    let entry ← widgetEntry dashboard position payload
    return entry :: (← widgetEntriesFrom dashboard (position + 1) rest)

/-- The entries of a dashboard's widgets. -/
def widgetEntries (dashboard : Entry Dashboard) : Except Refusal (List (Entry Widget)) :=
  widgetEntriesFrom dashboard 0 dashboard.object.widgets

/-- The visualizations of a query, marked as its own. -/
def ownVisualizations (query : Query) : Except Refusal (List Visualization) :=
  query.visualizations.mapM fun payload => do
    return { ← decodeVisualization payload with queryId := query.id }

/-- The entries of a query's visualizations. -/
def visualizationEntries (query : Entry Query) : Except Refusal (List (Entry Visualization)) := do
  let visualizations ← ownVisualizations query.object
  let names := visualizationNames query.resourceName (visualizations.map Visualization.lowerType)
  return visualizations.zipWith (fun visualization name => ⟨visualization.id, name, visualization⟩)
    names

/-- The id of the query whose results a widget shows, if it shows any. -/
def Widget.shownQuery? (widget : Widget) : Except Refusal (Option String) :=
  match present? widget.visualization with
  | none => .ok none
  | some payload => do
    match present? (← decodeVisualization payload).query with
    | none => return none
    | some reference =>
      return some (← Refusal.ofOutcome (.part "QueryRef") (QueryRef.decode reference)).id

end DashboardExport
