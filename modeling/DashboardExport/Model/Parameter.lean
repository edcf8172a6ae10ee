import DashboardExport.Decoding.Field
import DashboardExport.Json.Literal

/-!
# Query parameters

A parameter is a name, an optional title and a value of one of ten kinds.  Seven
kinds hold a single text and differ in what the text means; a number, a choice
from a fixed list and a choice from the results of another query have values of
their own.  Which kind a payload has is read off its `type` member first, so a
payload of an unknown kind is rejected instead of being taken for a neighbour.
-/

set_option autoImplicit false

namespace DashboardExport

open Decoding

/-- The kinds of parameter whose value is a single text. -/
inductive SingleKind where
  | text
  | date
  | dateTime
  | dateTimeSeconds
  | dateRange
  | dateTimeRange
  | dateTimeSecondsRange
  deriving DecidableEq

/-- The kinds of parameter. -/
inductive ParameterKind where
  | single (kind : SingleKind)
  | number
  | choice
  | queryBacked
  deriving DecidableEq

/-- The text that stands for a kind in a payload. -/
def ParameterKind.discriminant : ParameterKind → String
  | .single .text => "text"
  | .number => "number"
  | .choice => "enum"
  | .queryBacked => "query"
  | .single .date => "date"
  | .single .dateTime => "datetime-local"
  | .single .dateTimeSeconds => "datetime-with-seconds"
  | .single .dateRange => "date-range"
  | .single .dateTimeRange => "datetime-range"
  | .single .dateTimeSecondsRange => "datetime-range-with-seconds"

/-- The ten kinds. -/
def ParameterKind.all : List ParameterKind :=
  [.single .text, .number, .choice, .queryBacked, .single .date, .single .dateTime,
    .single .dateTimeSeconds, .single .dateRange, .single .dateTimeRange,
    .single .dateTimeSecondsRange]

/-- The kind a text stands for. -/
def ParameterKind.ofDiscriminant? (text : String) : Option ParameterKind :=
  ParameterKind.all.find? fun kind => kind.discriminant == text

theorem ParameterKind.mem_all (kind : ParameterKind) : kind ∈ ParameterKind.all := by
  rcases kind with k | _ | _ | _
  · cases k <;> decide
  all_goals decide

/-- **Discriminants are read back.** -/
theorem ParameterKind.ofDiscriminant?_discriminant (kind : ParameterKind) :
    ParameterKind.ofDiscriminant? kind.discriminant = some kind := by
  rcases kind with k | _ | _ | _
  · cases k <;> decide
  all_goals decide

theorem ParameterKind.discriminant_of_ofDiscriminant? {text : String} {kind : ParameterKind}
    (h : ParameterKind.ofDiscriminant? text = some kind) : kind.discriminant = text := by
  simpa using List.find?_some h

/-- How several values of a parameter are joined into one text. -/
structure MultipleValues where
  /-- Written before each value. -/
  before : String
  /-- Written after each value. -/
  after : String
  /-- Written between values. -/
  separator : String
  deriving DecidableEq

/-- The values of a parameter that may have several. -/
structure Selection where
  values : List String
  /-- Present when several values may be chosen. -/
  multiple : Option MultipleValues
  deriving DecidableEq

/-- The value of a parameter. -/
inductive ParameterValue where
  | single (kind : SingleKind) (text : String)
  /-- A number; none when the payload has no value, which counts as zero. -/
  | number (value : Option Binary64)
  /-- A choice among the lines of `options`. -/
  | choice (selection : Selection) (options : String)
  | queryBacked (selection : Selection) (queryId : String)
  deriving DecidableEq

/-- A query parameter. -/
structure Parameter where
  name : String
  title : Option String
  value : ParameterValue
  deriving DecidableEq

/-- The kind of a value. -/
def ParameterValue.kind : ParameterValue → ParameterKind
  | .single kind _ => .single kind
  | .number _ => .number
  | .choice .. => .choice
  | .queryBacked .. => .queryBacked

/-- The kind of a parameter. -/
def Parameter.kind (p : Parameter) : ParameterKind := p.value.kind

/-! ## Decoding -/

namespace MultipleValues

def beforeField : FieldName := .same "prefix"
def afterField : FieldName := .same "suffix"
def separatorField : FieldName := .same "separator"

def decode : Json → Outcome MultipleValues :=
  object fun members =>
    MultipleValues.mk <$> beforeField.optional "" string members
      <*> afterField.optional "" string members
      <*> separatorField.optional "" string members

def dump (naming : Naming) (m : MultipleValues) : Json :=
  .obj [(beforeField.under naming, .str m.before), (afterField.under naming, .str m.after),
    (separatorField.under naming, .str m.separator)]

end MultipleValues

namespace Parameter

def nameField : FieldName := .same "name"
def titleField : FieldName := .same "title"
def valueField : FieldName := .same "value"
def valuesField : FieldName := ⟨"value", "values"⟩
def multipleField : FieldName := ⟨"multiValuesOptions", "multi"⟩
def optionsField : FieldName := ⟨"enumOptions", "options"⟩
def queryIdField : FieldName := ⟨"queryId", "query_id"⟩
def typeField : FieldName := .same "type"

/-- A single text; null counts as the empty one. -/
def singleText : Json → Outcome String
  | .null => .value ""
  | value => string value

/-- The values of a parameter that may have several: the service sends a list, or the bare value
when there is one.  Each value is kept as plain text. -/
def plainValues : Json → Outcome (List String)
  | .null => .value []
  | .arr items => .value (items.map Json.plain)
  | value => .value [Json.plain value]

def selection (members : Members) : Outcome Selection :=
  Selection.mk <$> valuesField.optional [] plainValues members
    <*> multipleField.optional none (nullable MultipleValues.decode) members

/-- The value of a parameter of a known kind. -/
def valueOfKind (members : Members) : ParameterKind → Outcome ParameterValue
  | .single kind => ParameterValue.single kind <$> valueField.optional "" singleText members
  | .number =>
    ParameterValue.number <$> valueField.optional none (fun v => (number v).map some) members
  | .choice =>
    ParameterValue.choice <$> selection members <*> optionsField.optional "" string members
  | .queryBacked =>
    ParameterValue.queryBacked <$> selection members <*> queryIdField.optional "" remoteId members

/-- A parameter of a known kind. -/
def ofKind (kind : ParameterKind) (members : Members) : Outcome Parameter :=
  Parameter.mk <$> nameField.required string members
    <*> titleField.optional none (nullable string) members
    <*> valueOfKind members kind

/-- A payload of a known kind; fields that do not fit reject the whole list it stands in. -/
def decodeKnown (kind : ParameterKind) (members : Members) : Outcome Parameter :=
  match ofKind kind members with
  | .invalid issues =>
    .rejected (.invalidParameter kind.discriminant
      ((members.lookup nameField.service).getD .null) issues)
  | outcome => outcome

/-- Decodes one parameter. -/
def decode : Json → Outcome Parameter
  | .obj members =>
    match (members.lookup typeField.service).getD .null with
    | .str text =>
      match ParameterKind.ofDiscriminant? text with
      | some kind => decodeKnown kind members
      | none => .rejected (.unknownParameterType (.str text))
    | .arr items => .rejected (.unusableDiscriminant (Json.arr items).kindName)
    | .obj inner => .rejected (.unusableDiscriminant (Json.obj inner).kindName)
    | discriminant => .rejected (.unknownParameterType discriminant)
  | value => .rejected (.parameterNotObject value.kindName)

/-- What a list of parameters is made from: payloads, and parameters that are decoded already. -/
inductive Item where
  | payload (value : Json)
  | decoded (parameter : Parameter)

/-- Decodes an item; a parameter that is decoded already stays as it is. -/
def Item.decode : Item → Outcome Parameter
  | .payload value => Parameter.decode value
  | .decoded parameter => .value parameter

/-- Decodes a list of items. -/
def decodeItems (items : List Item) : Outcome (List Parameter) := itemsFrom Item.decode 0 items

/-- Decodes the parameters of a query.  What stands in place of the list is gone through item by
item if it has any; the keys of an object and the characters of a text are no parameters. -/
def decodeList : Json → Outcome (List Parameter)
  | .null => .value []
  | .arr items => itemsFrom decode 0 items
  | .obj [] => .value []
  | .obj _ => .rejected (.parameterNotObject (Json.str "").kindName)
  | .str text =>
    if text.isEmpty then .value [] else .rejected (.parameterNotObject (Json.str "").kindName)
  | value => .rejected (.notIterable value.kindName)

/-! ## Writing out -/

/-- The value fields of a parameter. -/
def dumpValue (naming : Naming) : ParameterValue → Members
  | .single _ text => [(valueField.under naming, .str text)]
  | .number none => [(valueField.under naming, .int 0)]
  | .number (some x) => [(valueField.under naming, .float x)]
  | .choice s options => dumpSelection s ++ [(optionsField.under naming, .str options)]
  | .queryBacked s queryId => dumpSelection s ++ [(queryIdField.under naming, .str queryId)]
where
  dumpSelection (s : Selection) : Members :=
    [(valuesField.under naming, .arr (s.values.map .str)),
      (multipleField.under naming, (s.multiple.map (MultipleValues.dump naming)).getD .null)]

/-- All fields of a parameter. -/
def dump (naming : Naming) (p : Parameter) : Json :=
  .obj ([(nameField.under naming, .str p.name),
    (titleField.under naming, (p.title.map Json.str).getD .null)] ++ dumpValue naming p.value ++
    [(typeField.under naming, .str p.kind.discriminant)])

end Parameter

end DashboardExport
