import DashboardExport.Hcl.Item
import DashboardExport.Rendering.Options

/-!
# Queries as configuration text

The resource of a query, followed by one resource for each of its visualizations,
which refer to the query by its resource name.
-/

set_option autoImplicit false

namespace DashboardExport.Rendering

open Hcl (Item)

/-! ## Resources -/

def queryResource : String := "databricks_sql_query"
def visualizationResource : String := "databricks_sql_visualization"
def dashboardResource : String := "databricks_sql_dashboard"
def widgetResource : String := "databricks_sql_widget"

/-- A resource of a type under a name. -/
def resource (type name : String) (items : List Item) : Item :=
  .block ("resource \"" ++ type ++ "\" \"" ++ name ++ "\"") items

/-- A line that sets a key to an unquoted value. -/
def plainAssignment (key value : String) : Item := .line (key ++ " = " ++ value)

/-- A line that sets a key to an integer. -/
def integerAssignment (key : String) (value : Int) : Item := plainAssignment key (toString value)

/-- A line that sets a key to the id of a resource. -/
def reference (key type name : String) : Item :=
  plainAssignment key (type ++ "." ++ name ++ ".id")

/-- An assignment of a text that is there and not empty. -/
def optionalAssignment (key : String) : Option String → List Item
  | none => []
  | some value => if value.isEmpty then [] else [.assignment key value]

/-- The items of groups, each group after an empty line. -/
def apart (groups : List Item) : List Item := groups.flatMap fun item => [Item.gap, item]

/-! ## Parameters -/

/-- The block that holds a value of a kind. -/
def valueBlock : ParameterKind → String
  | .single .text => "text"
  | .number => "number"
  | .choice => "enum"
  | .queryBacked => "query"
  | .single .date => "date"
  | .single .dateTime => "datetime"
  | .single .dateTimeSeconds => "datetimesec"
  | .single .dateRange => "date_range"
  | .single .dateTimeRange => "datetime_range"
  | .single .dateTimeSecondsRange => "datetimesec_range"

/-- A number as it is written: without its fraction. -/
def wholeNumber : Option Binary64 → Except Problem Int
  | none => .ok 0
  | some x =>
    match x.truncate? with
    | some n => .ok n
    | none => .error (if x = .nan then .notANumber else .infiniteNumber)

/-- The values of a parameter: the first one, or all of them with the way they are joined. -/
def selectionItems (selection : Selection) : List Item :=
  match selection.multiple with
  | none => [.assignment "value" (selection.values.head?.getD "")]
  | some joined =>
    [.strings "values" selection.values, .gap,
      .block "multiple" [.assignment "prefix" joined.before, .assignment "suffix" joined.after,
        .assignment "separator" joined.separator]]

/-- The lines of a text; a text without a line end is one line. -/
def linesOf (text : String) : List String :=
  (Text.splitAtEvery (· == '\n') text.toList).map String.ofList

/-- The items of a parameter's value. -/
def valueItems : ParameterValue → Except Problem (List Item)
  | .single _ text => .ok [.assignment "value" text]
  | .number value => do return [integerAssignment "value" (← wholeNumber value)]
  | .choice selection options =>
    .ok (.strings "options" (linesOf options) :: selectionItems selection)
  | .queryBacked selection queryId =>
    .ok (.assignment "query_id" queryId :: selectionItems selection)

/-- The block of a parameter. -/
def parameterItem (parameter : Parameter) : Except Problem Item := do
  let value ← valueItems parameter.value
  return .block "parameter" (.assignment "name" parameter.name ::
    optionalAssignment "title" parameter.title ++
    [.gap, .block (valueBlock parameter.kind) value])

/-! ## Queries -/

/-- The resource of a query without its visualizations. -/
def queryItem (entry : Entry Query) : Except Problem Item := do
  let query := entry.object
  let parameters ← query.options.parameters.mapM parameterItem
  let schedule : List Item := match query.schedule with
    | none => []
    | some schedule => [.block "schedule" [integerAssignment "interval" schedule.interval]]
  return resource queryResource entry.resourceName
    ([.assignment "data_source_id" query.dataSourceId, .assignment "name" query.name] ++
      optionalAssignment "description" query.description ++
      [.gap, .strings "tags" query.tags] ++
      apart (schedule ++ parameters) ++
      [.gap, .heredoc "query" "SQL" (some query.text)])

/-- The resource of a visualization of a query. -/
def visualizationItem (skipDefaults : Bool) (query : Entry Query) (entry : Entry Visualization) :
    Except Refusal Item := do
  let visualization := entry.object
  let options ← optionsText skipDefaults visualization
  return resource visualizationResource entry.resourceName
    ([reference "query_id" queryResource query.resourceName,
      .assignment "type" visualization.lowerType, .assignment "name" visualization.name] ++
      optionalAssignment "description" visualization.description ++
      [.gap, .heredoc "options" "JSON" (some options)])

/-- The items of a query and its visualizations. -/
def queryItems (skipDefaults : Bool) (inventory : Inventory) (entry : Entry Query) :
    Except Failure (List Item) := do
  let query ← (queryItem entry).mapError .rendering
  let visualizations ← ((inventory.visualizationsFor entry).mapM
    (visualizationItem skipDefaults entry)).mapError .refused
  return query :: apart visualizations

/-- The text of a query and its visualizations. -/
def renderQuery (skipDefaults : Bool) (inventory : Inventory) (entry : Entry Query) :
    Except Failure String :=
  (queryItems skipDefaults inventory entry).map Item.render

end DashboardExport.Rendering
