import DashboardExport.Rendering.Query

/-!
# Dashboards as configuration text

The resource of a dashboard, followed by one resource for each of its widgets.  A
widget refers to the dashboard and to the visualization that it shows by their
resource names; a widget that shows no visualization has a text.
-/

set_option autoImplicit false

namespace DashboardExport.Rendering

open Hcl (Item)

/-- The resource of a dashboard without its widgets. -/
def dashboardItem (entry : Entry Dashboard) : Item :=
  resource dashboardResource entry.resourceName
    [.assignment "name" entry.object.name, .gap, .strings "tags" entry.object.tags]

/-- What a widget shows: a visualization that was loaded, or a text. -/
def contentItem (inventory : Inventory) (entry : Entry Widget) : Except Problem Item :=
  match entry.object.visualizationId with
  | none => .ok (.heredoc "text" "EOT" entry.object.text)
  | some id =>
    match inventory.findVisualization id with
    | some shown => .ok (reference "visualization_id" visualizationResource shown.resourceName)
    | none => .error (.missingVisualization entry.resourceName id)

/-- The place of a widget. -/
def positionItem (position : WidgetPosition) : Item :=
  .block "position" [integerAssignment "size_x" position.sizeX,
    integerAssignment "size_y" position.sizeY, integerAssignment "pos_x" position.column,
    integerAssignment "pos_y" position.row]

/-- The value of a mapping: a text, or none. -/
def mappingValue (widgetName : String) (mapping : ParameterMapping) :
    Except Problem (List Item) :=
  match mapping.value with
  | .null => .ok []
  | .str text => .ok [.assignment "value" text]
  | value => .error (.unsupportedValue mapping.name widgetName value.kindName)

/-- How a parameter of the query that a widget shows is set. -/
def mappingItem (widgetName : String) (mapping : ParameterMapping) : Except Problem Item := do
  let value ← mappingValue widgetName mapping
  return .block "parameter"
    ([.assignment "name" mapping.name, .assignment "type" mapping.type] ++
      optionalAssignment "map_to" mapping.mapTo ++ optionalAssignment "title" mapping.title ++
      value)

/-- The resource of a widget of a dashboard. -/
def widgetItem (inventory : Inventory) (dashboard : Entry Dashboard) (entry : Entry Widget) :
    Except Problem Item := do
  let options := entry.object.options
  let content ← contentItem inventory entry
  let mappings ← options.mappings.mapM fun mapping => mappingItem entry.resourceName mapping.2
  return resource widgetResource entry.resourceName
    ([reference "dashboard_id" dashboardResource dashboard.resourceName, content] ++
      apart ((options.position.map positionItem).toList ++ mappings))

/-- The items of a dashboard and its widgets. -/
def dashboardItems (inventory : Inventory) (entry : Entry Dashboard) :
    Except Problem (List Item) := do
  let widgets ← (inventory.widgetsFor entry).mapM (widgetItem inventory entry)
  return dashboardItem entry :: apart widgets

/-- The text of a dashboard and its widgets. -/
def renderDashboard (inventory : Inventory) (entry : Entry Dashboard) : Except Failure String :=
  ((dashboardItems inventory entry).map Item.render).mapError .rendering

end DashboardExport.Rendering
