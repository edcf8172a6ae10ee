import DashboardExport.Proofs.Decoding.Changes
import DashboardExport.Proofs.Decoding.Dumps

/-!
# Ids that are written as integers

The service writes an id as a text or as an integer.  In a payload each id can be put into
the form of a text where it stands: in the objects themselves, in their visualizations and
the queries these refer to, and in the parameters that take their values from a query
(`answerText`).

Decoding does not see the difference.  What is kept for later holds the same payloads with
texts for ids (`Widget.decode_widgetText`, `Query.decode_answerText` and their like), and
everything else in a decoded object is the same.
-/

set_option autoImplicit false

namespace DashboardExport

open Decoding

namespace Decoding

/-- An id as a text. -/
def idText : Json → Json
  | .int n => .str (toString n)
  | value => value

theorem remoteId_idText (value : Json) : remoteId (idText value) = remoteId value := by
  cases value <;> rfl

theorem nullable_remoteId_idText (value : Json) :
    nullable remoteId (idText value) = nullable remoteId value := by
  cases value <;> rfl

/-- The items of a list, each changed. -/
def changeItems (change : Json → Json) : Json → Json
  | .arr items => .arr (items.map change)
  | value => value

theorem listOrNull_raw_changeItems (change : Json → Json) (value : Json) :
    listOrNull raw (changeItems change value) = List.map change <$> listOrNull raw value := by
  cases value with
  | arr items =>
      rw [changeItems, listOrNull_raw, listOrNull_raw]
      rfl
  | _ => rfl

theorem nullable_raw_renameFields (change : String → Json → Json) (value : Json) :
    nullable raw (renameFields change value) =
      Option.map (renameFields change) <$> nullable raw value := by
  cases value <;> rfl

end Decoding

/-! ## Payloads with texts for ids -/

/-- The fields of a reference to a query. -/
def referenceFields : String → Json → Json
  | "id" => idText
  | _ => id

/-- A reference to a query. -/
def referenceText : Json → Json := renameFields referenceFields

/-- The fields of a visualization, which may embed its query. -/
def visualizationFields : String → Json → Json
  | "id" => idText
  | "query" => referenceText
  | _ => id

/-- A visualization. -/
def visualizationText : Json → Json := renameFields visualizationFields

/-- The fields of a widget, which may show a visualization. -/
def widgetFields : String → Json → Json
  | "id" => idText
  | "visualization_id" => idText
  | "visualization" => visualizationText
  | _ => id

/-- A widget. -/
def widgetText : Json → Json := renameFields widgetFields

/-- The fields of a parameter, which may take its values from a query. -/
def parameterFields : String → Json → Json
  | "queryId" => idText
  | "query_id" => idText
  | _ => id

/-- A parameter. -/
def parameterText : Json → Json := renameFields parameterFields

/-- The fields of the options of a query. -/
def queryOptionsFields : String → Json → Json
  | "parameters" => changeItems parameterText
  | _ => id

/-- The options of a query. -/
def queryOptionsText : Json → Json := renameFields queryOptionsFields

/-- The fields of a dashboard or of a query. -/
def answerFields : String → Json → Json
  | "id" => idText
  | "widgets" => changeItems widgetText
  | "visualizations" => changeItems visualizationText
  | "options" => queryOptionsText
  | _ => id

/-- What the service answers: a dashboard or a query. -/
def answerText : Json → Json := renameFields answerFields

/-! ## Decoded objects with texts for ids -/

/-- A visualization whose embedded query has a text for its id. -/
def Visualization.withTexts (v : Visualization) : Visualization :=
  { v with query := v.query.map referenceText }

/-- A widget whose visualization has texts for ids. -/
def Widget.withTexts (w : Widget) : Widget :=
  { w with visualization := w.visualization.map visualizationText }

/-- A dashboard whose widgets have texts for ids. -/
def Dashboard.withTexts (d : Dashboard) : Dashboard :=
  { d with widgets := d.widgets.map widgetText }

/-- A query whose visualizations have texts for ids. -/
def Query.withTexts (q : Query) : Query :=
  { q with visualizations := q.visualizations.map visualizationText }

/-! ## Decoding -/

theorem QueryRef.decode_referenceText (payload : Json) :
    decode (referenceText payload) = decode payload := by
  cases payload with
  | obj members =>
      have id : idField.required remoteId (changeValues referenceFields members) =
        idField.required remoteId members := FieldName.required_alike _ rfl rfl remoteId_idText
      exact congrArg (QueryRef.mk <$> ·) id
  | _ => rfl

theorem Visualization.decode_visualizationText (payload : Json) :
    decode (visualizationText payload) = withTexts <$> decode payload := by
  cases payload with
  | obj members =>
      show decode (.obj (changeValues visualizationFields members)) = withTexts <$> _
      simp only [decode, object]
      rw [idField.required_alike visualizationFields rfl rfl remoteId_idText,
        queryIdField.optional_kept visualizationFields rfl rfl,
        typeField.required_kept visualizationFields rfl rfl,
        nameField.optional_kept visualizationFields rfl rfl,
        descriptionField.optional_kept visualizationFields rfl rfl,
        optionsField.optional_kept visualizationFields rfl rfl,
        queryField.optional_map visualizationFields rfl rfl (nullable_raw_renameFields _) rfl]
      simp only [functor_norm]
      rfl
  | _ => rfl

theorem Widget.decode_widgetText (payload : Json) :
    decode (widgetText payload) = withTexts <$> decode payload := by
  cases payload with
  | obj members =>
      show decode (.obj (changeValues widgetFields members)) = withTexts <$> _
      simp only [decode, object]
      rw [idField.required_alike widgetFields rfl rfl remoteId_idText,
        dashboardIdField.optional_kept widgetFields rfl rfl,
        textField.optional_kept widgetFields rfl rfl,
        visualizationField.optional_map widgetFields rfl rfl (nullable_raw_renameFields _) rfl,
        visualizationIdField.optional_alike widgetFields rfl rfl nullable_remoteId_idText,
        optionsField.optional_kept widgetFields rfl rfl]
      simp only [functor_norm]
      rfl
  | _ => rfl

theorem Dashboard.decode_answerText (payload : Json) :
    decode (answerText payload) = withTexts <$> decode payload := by
  cases payload with
  | obj members =>
      show decode (.obj (changeValues answerFields members)) = withTexts <$> _
      simp only [decode, object]
      rw [idField.required_alike answerFields rfl rfl remoteId_idText,
        nameField.required_kept answerFields rfl rfl,
        tagsField.optional_kept answerFields rfl rfl,
        widgetsField.optional_map answerFields rfl rfl (listOrNull_raw_changeItems _) rfl]
      simp only [functor_norm]
      rfl
  | _ => rfl

/-! ## Parameters -/

namespace Parameter

theorem selection_parameterText (members : Members) :
    selection (changeValues parameterFields members) = selection members := by
  rw [selection, valuesField.optional_kept parameterFields rfl rfl,
    multipleField.optional_kept parameterFields rfl rfl, ← selection]

theorem ofKind_parameterText (kind : ParameterKind) (members : Members) :
    ofKind kind (changeValues parameterFields members) = ofKind kind members := by
  have held : valueOfKind (changeValues parameterFields members) kind =
      valueOfKind members kind := by
    cases kind with
    | single kind => rw [valueOfKind, valueField.optional_kept parameterFields rfl rfl, valueOfKind]
    | number => rw [valueOfKind, valueField.optional_kept parameterFields rfl rfl, valueOfKind]
    | choice =>
        rw [valueOfKind, selection_parameterText,
          optionsField.optional_kept parameterFields rfl rfl, valueOfKind]
    | queryBacked =>
        rw [valueOfKind, selection_parameterText,
          queryIdField.optional_alike parameterFields rfl rfl remoteId_idText, valueOfKind]
  rw [ofKind, nameField.required_kept parameterFields rfl rfl,
    titleField.optional_kept parameterFields rfl rfl, held, ← ofKind]

/-- **A parameter does not show how the id of its query is written.** -/
theorem decode_parameterText (payload : Json) :
    decode (parameterText payload) = decode payload := by
  cases payload with
  | obj members =>
      have kept {name : String} (same : parameterFields name = id) :
          (changeValues parameterFields members).lookup name = members.lookup name := by
        rw [changeValues, lookup_map_values, same, Option.map_id, id]
      have typed := kept (show parameterFields typeField.service = id from rfl)
      have named := kept (show parameterFields nameField.service = id from rfl)
      show decode (.obj (changeValues parameterFields members)) = _
      simp only [decode, decodeKnown, typed, named, ofKind_parameterText]
  | _ => rfl

theorem decodeList_parameterText (payload : Json) :
    decodeList (changeItems parameterText payload) = decodeList payload := by
  cases payload with
  | arr items =>
      have each (position : Nat) : itemsFrom decode position (items.map parameterText) =
          itemsFrom decode position items := by
        induction items generalizing position with
        | nil => rfl
        | cons item rest ih => rw [List.map_cons, itemsFrom, itemsFrom, decode_parameterText, ih]
      exact each 0
  | _ => rfl

end Parameter

namespace QueryOptions

theorem decode_queryOptionsText (payload : Json) :
    decode (queryOptionsText payload) = decode payload := by
  cases payload with
  | obj members =>
      show decode (.obj (changeValues queryOptionsFields members)) = _
      simp only [decode, object]
      rw [parametersField.optional_alike queryOptionsFields rfl rfl
        Parameter.decodeList_parameterText]
  | _ => rfl

theorem decodeOrNull_queryOptionsText (payload : Json) :
    decodeOrNull (queryOptionsText payload) = decodeOrNull payload := by
  cases payload with
  | obj members => exact decode_queryOptionsText (.obj members)
  | _ => rfl

end QueryOptions

theorem Query.decode_answerText (payload : Json) :
    decode (answerText payload) = withTexts <$> decode payload := by
  cases payload with
  | obj members =>
      show decode (.obj (changeValues answerFields members)) = withTexts <$> _
      simp only [decode, object]
      rw [idField.required_alike answerFields rfl rfl remoteId_idText,
        dataSourceIdField.optional_kept answerFields rfl rfl,
        nameField.required_kept answerFields rfl rfl,
        descriptionField.optional_kept answerFields rfl rfl,
        textField.optional_kept answerFields rfl rfl,
        scheduleField.optional_kept answerFields rfl rfl,
        optionsField.optional_alike answerFields rfl rfl QueryOptions.decodeOrNull_queryOptionsText,
        tagsField.optional_kept answerFields rfl rfl,
        visualizationsField.optional_map answerFields rfl rfl (listOrNull_raw_changeItems _) rfl]
      simp only [functor_norm]
      rfl
  | _ => rfl

end DashboardExport
