import DashboardExport.Decoding.Field

/-!
# Dashboards and widgets

A dashboard is a list of widgets.  A widget shows a text or a visualization; the
visualization stays undecoded until the caller knows that there is one.  A
widget's options place it on the grid and map the parameters of its query.
-/

set_option autoImplicit false

namespace DashboardExport

open Decoding

/-- Where a widget stands on the dashboard's grid. -/
structure WidgetPosition where
  autoHeight : Bool
  sizeX : Int
  sizeY : Int
  column : Int
  row : Int
  deriving DecidableEq

/-- How a parameter of a widget's query is set. -/
structure ParameterMapping where
  name : String
  type : String
  mapTo : Option String
  title : Option String
  value : Json
  deriving DecidableEq

/-- The options of a widget; the mappings keep the order and the keys of the payload. -/
structure WidgetOptions where
  position : Option WidgetPosition
  mappings : List (String × ParameterMapping)
  deriving DecidableEq

/-- A widget of a dashboard. -/
structure Widget where
  id : String
  dashboardId : String
  text : Option String
  visualization : Option Json
  visualizationId : Option String
  options : WidgetOptions
  deriving DecidableEq

/-- A dashboard, with its widgets undecoded. -/
structure Dashboard where
  id : String
  name : String
  tags : List String
  widgets : List Json
  deriving DecidableEq

namespace WidgetPosition

def autoHeightField : FieldName := ⟨"autoHeight", "auto_height"⟩
def sizeXField : FieldName := ⟨"sizeX", "size_x"⟩
def sizeYField : FieldName := ⟨"sizeY", "size_y"⟩
def columnField : FieldName := ⟨"col", "pos_x"⟩
def rowField : FieldName := ⟨"row", "pos_y"⟩

def decode : Json → Outcome WidgetPosition :=
  object fun members =>
    WidgetPosition.mk <$> autoHeightField.optional false boolean members
      <*> sizeXField.optional 0 integer members
      <*> sizeYField.optional 0 integer members
      <*> columnField.optional 0 integer members
      <*> rowField.optional 0 integer members

def dump (naming : Naming) (p : WidgetPosition) : Json :=
  .obj [(autoHeightField.under naming, .bool p.autoHeight),
    (sizeXField.under naming, .int p.sizeX),
    (sizeYField.under naming, .int p.sizeY),
    (columnField.under naming, .int p.column),
    (rowField.under naming, .int p.row)]

end WidgetPosition

namespace ParameterMapping

def nameField : FieldName := .same "name"
def typeField : FieldName := .same "type"
def mapToField : FieldName := ⟨"mapTo", "map_to"⟩
def titleField : FieldName := .same "title"
def valueField : FieldName := .same "value"

def decode : Json → Outcome ParameterMapping :=
  object fun members =>
    ParameterMapping.mk <$> nameField.required string members
      <*> typeField.required string members
      <*> mapToField.optional none (nullable string) members
      <*> titleField.optional none (nullable string) members
      <*> valueField.optional .null raw members

def dump (naming : Naming) (m : ParameterMapping) : Json :=
  .obj [(nameField.under naming, .str m.name),
    (typeField.under naming, .str m.type),
    (mapToField.under naming, (m.mapTo.map Json.str).getD .null),
    (titleField.under naming, (m.title.map Json.str).getD .null),
    (valueField.under naming, m.value)]

end ParameterMapping

namespace WidgetOptions

def positionField : FieldName := .same "position"
def mappingsField : FieldName := ⟨"parameterMappings", "parameter_mappings"⟩

/-- The mappings, where null counts as none. -/
def decodeMappings : Json → Outcome (List (String × ParameterMapping))
  | .null => .value []
  | value => dictionary ParameterMapping.decode value

def decode : Json → Outcome WidgetOptions :=
  object fun members =>
    WidgetOptions.mk <$> positionField.optional none (nullable WidgetPosition.decode) members
      <*> mappingsField.optional [] decodeMappings members

/-- Options, where null counts as an object without members. -/
def decodeOrNull : Json → Outcome WidgetOptions
  | .null => decode (.obj [])
  | value => decode value

def dump (naming : Naming) (o : WidgetOptions) : Json :=
  .obj [(positionField.under naming,
      (o.position.map (WidgetPosition.dump naming)).getD .null),
    (mappingsField.under naming,
      .obj (o.mappings.map fun entry => (entry.1, entry.2.dump naming)))]

end WidgetOptions

namespace Widget

def idField : FieldName := .same "id"
def dashboardIdField : FieldName := .same "dashboard_id"
def textField : FieldName := .same "text"
def visualizationField : FieldName := .same "visualization"
def visualizationIdField : FieldName := .same "visualization_id"
def optionsField : FieldName := .same "options"

def decode : Json → Outcome Widget :=
  object fun members =>
    Widget.mk <$> idField.required remoteId members
      <*> dashboardIdField.optional "" string members
      <*> textField.optional none (nullable string) members
      <*> visualizationField.optional none (nullable raw) members
      <*> visualizationIdField.optional none (nullable remoteId) members
      <*> optionsField.optional ⟨none, []⟩ WidgetOptions.decodeOrNull members

def dump (naming : Naming) (w : Widget) : Json :=
  .obj [(idField.under naming, .str w.id),
    (dashboardIdField.under naming, .str w.dashboardId),
    (textField.under naming, (w.text.map Json.str).getD .null),
    (visualizationField.under naming, w.visualization.getD .null),
    (visualizationIdField.under naming, (w.visualizationId.map Json.str).getD .null),
    (optionsField.under naming, w.options.dump naming)]

end Widget

namespace Dashboard

def idField : FieldName := .same "id"
def nameField : FieldName := .same "name"
def tagsField : FieldName := .same "tags"
def widgetsField : FieldName := .same "widgets"

def decode : Json → Outcome Dashboard :=
  object fun members =>
    Dashboard.mk <$> idField.required remoteId members
      <*> nameField.required string members
      <*> tagsField.optional [] (listOrNull string) members
      <*> widgetsField.optional [] (listOrNull raw) members

def dump (naming : Naming) (d : Dashboard) : Json :=
  .obj [(idField.under naming, .str d.id),
    (nameField.under naming, .str d.name),
    (tagsField.under naming, .arr (d.tags.map .str)),
    (widgetsField.under naming, .arr d.widgets)]

end Dashboard

end DashboardExport
