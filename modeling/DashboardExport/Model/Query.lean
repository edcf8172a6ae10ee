import DashboardExport.Model.Parameter

/-!
# Queries

A saved query: its text, the data source it runs on, its parameters and the
visualizations of its results.  The visualizations stay undecoded here, because
what their options hold depends on their type.
-/

set_option autoImplicit false

namespace DashboardExport

open Decoding

/-- When a query is run again. -/
structure Schedule where
  interval : Int
  deriving DecidableEq

/-- The options of a query. -/
structure QueryOptions where
  parameters : List Parameter
  deriving DecidableEq

/-- A saved query. -/
structure Query where
  id : String
  dataSourceId : String
  name : String
  description : Option String
  text : String
  schedule : Option Schedule
  options : QueryOptions
  tags : List String
  visualizations : List Json
  deriving DecidableEq

/-- The part of a query that a dashboard widget's visualization embeds. -/
structure QueryRef where
  id : String
  deriving DecidableEq

namespace Schedule

def intervalField : FieldName := .same "interval"

def decode : Json → Outcome Schedule :=
  object fun members => Schedule.mk <$> intervalField.required integer members

def dump (naming : Naming) (s : Schedule) : Json :=
  .obj [(intervalField.under naming, .int s.interval)]

end Schedule

namespace QueryOptions

def parametersField : FieldName := .same "parameters"

def decode : Json → Outcome QueryOptions :=
  object fun members =>
    QueryOptions.mk <$> parametersField.optional [] Parameter.decodeList members

/-- Options whose parameters are made from items. -/
def ofItems (items : List Parameter.Item) : Outcome QueryOptions :=
  QueryOptions.mk <$> (Parameter.decodeItems items).under (.key parametersField.service)

/-- Options, where null counts as an object without members. -/
def decodeOrNull : Json → Outcome QueryOptions
  | .null => decode (.obj [])
  | value => decode value

def dump (naming : Naming) (o : QueryOptions) : Json :=
  .obj [(parametersField.under naming, .arr (o.parameters.map (Parameter.dump naming)))]

end QueryOptions

namespace Query

def idField : FieldName := .same "id"
def dataSourceIdField : FieldName := .same "data_source_id"
def nameField : FieldName := .same "name"
def descriptionField : FieldName := .same "description"
def textField : FieldName := .same "query"
def scheduleField : FieldName := .same "schedule"
def optionsField : FieldName := .same "options"
def tagsField : FieldName := .same "tags"
def visualizationsField : FieldName := .same "visualizations"

def decode : Json → Outcome Query :=
  object fun members =>
    Query.mk <$> idField.required remoteId members
      <*> dataSourceIdField.optional "" string members
      <*> nameField.required string members
      <*> descriptionField.optional none (nullable string) members
      <*> textField.optional "" string members
      <*> scheduleField.optional none (nullable Schedule.decode) members
      <*> optionsField.optional ⟨[]⟩ QueryOptions.decodeOrNull members
      <*> tagsField.optional [] (listOrNull string) members
      <*> visualizationsField.optional [] (listOrNull raw) members

def dump (naming : Naming) (q : Query) : Json :=
  .obj [(idField.under naming, .str q.id),
    (dataSourceIdField.under naming, .str q.dataSourceId),
    (nameField.under naming, .str q.name),
    (descriptionField.under naming, (q.description.map Json.str).getD .null),
    (textField.under naming, .str q.text),
    (scheduleField.under naming, (q.schedule.map (Schedule.dump naming)).getD .null),
    (optionsField.under naming, q.options.dump naming),
    (tagsField.under naming, .arr (q.tags.map .str)),
    (visualizationsField.under naming, .arr q.visualizations)]

end Query

namespace QueryRef

def idField : FieldName := .same "id"

def decode : Json → Outcome QueryRef :=
  object fun members => QueryRef.mk <$> idField.required remoteId members

def dump (naming : Naming) (r : QueryRef) : Json :=
  .obj [(idField.under naming, .str r.id)]

end QueryRef

end DashboardExport
