import DashboardExport.Decoding.Field

/-!
# Visualizations

A visualization of a query's results.  Its options stay undecoded, and so does the
query that it carries when a dashboard widget embeds it.
-/

set_option autoImplicit false

namespace DashboardExport

open Decoding

/-- A visualization of a query's results. -/
structure Visualization where
  id : String
  queryId : String
  type : String
  name : String
  description : Option String
  options : Json
  /-- The embedded query, present only in a dashboard widget. -/
  query : Option Json
  deriving DecidableEq

namespace Visualization

def idField : FieldName := .same "id"
def queryIdField : FieldName := .same "query_id"
def typeField : FieldName := .same "type"
def nameField : FieldName := .same "name"
def descriptionField : FieldName := .same "description"
def optionsField : FieldName := .same "options"
def queryField : FieldName := .same "query"

def decode : Json → Outcome Visualization :=
  object fun members =>
    Visualization.mk <$> idField.required remoteId members
      <*> queryIdField.optional "" string members
      <*> typeField.required string members
      <*> nameField.optional "" string members
      <*> descriptionField.optional none (nullable string) members
      <*> optionsField.optional .null raw members
      <*> queryField.optional none (nullable raw) members

def dump (naming : Naming) (v : Visualization) : Json :=
  .obj [(idField.under naming, .str v.id),
    (queryIdField.under naming, .str v.queryId),
    (typeField.under naming, .str v.type),
    (nameField.under naming, .str v.name),
    (descriptionField.under naming, (v.description.map Json.str).getD .null),
    (optionsField.under naming, v.options),
    (queryField.under naming, v.query.getD .null)]

end Visualization

end DashboardExport
