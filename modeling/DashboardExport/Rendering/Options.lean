import DashboardExport.Failure
import DashboardExport.Inventory.Basic
import DashboardExport.Json.Printer
import DashboardExport.Model.TableOptions

/-!
# Options of visualizations as text

The options of a table are decoded and written without the settings that the
service fills in by default, if that is asked for.  Options of any other type are
written as they are, with the keys of every object sorted.
-/

set_option autoImplicit false

namespace DashboardExport.Rendering

/-- The type whose options are decoded. -/
def tableType : String := "table"

/-- The options of a visualization as they are written. -/
def optionsJson (skipDefaults : Bool) (visualization : Visualization) : Except Refusal Json :=
  if visualization.lowerType = tableType then do
    let options ← Refusal.ofOutcome (.part "VisualizationTableOptions")
      (TableOptions.decode visualization.options)
    return options.toJson skipDefaults
  else .ok visualization.options.sortKeys

/-- The text of the options of a visualization. -/
def optionsText (skipDefaults : Bool) (visualization : Visualization) : Except Refusal String :=
  (optionsJson skipDefaults visualization).map Json.pretty

end DashboardExport.Rendering
