import DashboardExport.Text.Literal

/-!
# Problems of rendering

What can be wrong with an object that was loaded: a widget that shows a
visualization nobody loaded, a parameter value of a kind that cannot be written, and
a number that is not finite where an integer is written.
-/

set_option autoImplicit false

namespace DashboardExport.Rendering

inductive Problem where
  | missingVisualization (widget visualizationId : String)
  /-- The value of a widget's parameter is of the named kind. -/
  | unsupportedValue (parameter widget kind : String)
  | notANumber
  | infiniteNumber
  deriving DecidableEq

namespace Problem

def message : Problem → String
  | .missingVisualization widget visualizationId =>
    "Widget " ++ widget ++ " references visualization " ++ visualizationId ++
      " which was not loaded"
  | .unsupportedValue parameter widget kind =>
    "Unhandled value type for parameter " ++ Text.literal parameter ++ " of widget " ++ widget ++
      ": " ++ kind
  | .notANumber => "cannot convert float NaN to integer"
  | .infiniteNumber => "cannot convert float infinity to integer"

/-- Whether a problem ends an export in good order. -/
def reported : Problem → Bool
  | .missingVisualization .. => true
  | .unsupportedValue .. => true
  | .notANumber => false
  | .infiniteNumber => false

end Problem

end DashboardExport.Rendering
