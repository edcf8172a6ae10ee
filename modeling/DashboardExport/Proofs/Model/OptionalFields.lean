import DashboardExport.Model.Dashboard
import DashboardExport.Model.Query
import DashboardExport.Model.TableOptions
import DashboardExport.Model.Visualization
import DashboardExport.Proofs.Decoding.Nulls
import DashboardExport.Proofs.Model.Parameters

/-!
# Optional fields that are null

The service leaves optional parts of an object out, or sends null for them.  A field that is
left out takes its default unchecked, and one that is null goes through its decoder, which
gives the default as well, be it a list, a dictionary, an object without members or nothing.
So both payloads are decoded alike, to the same object or with the same issues, whatever their
other fields hold (`PayloadModel.decode_given_eq_absent`).
-/

set_option autoImplicit false

namespace DashboardExport

open Decoding

section Objects

-- Each proof goes the same way: no other field sees the difference, and the field itself takes
-- null for its default.

variable {field : FieldName} {given absent : Members} (null : NullFor field.service given absent)
  (own : absent.lookup field.own = none)
include null own

/-! ## Dashboards and widgets -/

theorem Dashboard.decode_null (optional : field ∈ [tagsField, widgetsField]) :
    decode (.obj given) = decode (.obj absent) := by
  simp only [List.mem_cons, List.not_mem_nil, or_false] at optional
  rcases optional with rfl | rfl
  all_goals
    simp (disch := decide) only [decode, object, null.required, null.optional]
    rw [null.optional_null own]
    rfl

theorem Widget.decode_null
    (optional : field ∈ [textField, visualizationField, visualizationIdField, optionsField]) :
    decode (.obj given) = decode (.obj absent) := by
  simp only [List.mem_cons, List.not_mem_nil, or_false] at optional
  rcases optional with rfl | rfl | rfl | rfl
  all_goals
    simp (disch := decide) only [decode, object, null.required, null.optional]
    rw [null.optional_null own]
    rfl

theorem WidgetOptions.decode_null (optional : field ∈ [positionField, mappingsField]) :
    decode (.obj given) = decode (.obj absent) := by
  simp only [List.mem_cons, List.not_mem_nil, or_false] at optional
  rcases optional with rfl | rfl
  all_goals
    simp (disch := decide) only [decode, object, null.optional]
    rw [null.optional_null own]
    rfl

theorem ParameterMapping.decode_null (optional : field ∈ [mapToField, titleField, valueField]) :
    decode (.obj given) = decode (.obj absent) := by
  simp only [List.mem_cons, List.not_mem_nil, or_false] at optional
  rcases optional with rfl | rfl | rfl
  all_goals
    simp (disch := decide) only [decode, object, null.required, null.optional]
    rw [null.optional_null own]
    rfl

/-! ## Queries and visualizations -/

theorem Query.decode_null (optional : field ∈
    [tagsField, visualizationsField, optionsField, scheduleField, descriptionField]) :
    decode (.obj given) = decode (.obj absent) := by
  simp only [List.mem_cons, List.not_mem_nil, or_false] at optional
  rcases optional with rfl | rfl | rfl | rfl | rfl
  all_goals
    simp (disch := decide) only [decode, object, null.required, null.optional]
    rw [null.optional_null own]
    rfl

theorem QueryOptions.decode_null (optional : field ∈ [parametersField]) :
    decode (.obj given) = decode (.obj absent) := by
  obtain rfl := List.mem_singleton.1 optional
  simp only [decode, object]
  rw [null.optional_null own]
  rfl

theorem Visualization.decode_null
    (optional : field ∈ [descriptionField, optionsField, queryField]) :
    decode (.obj given) = decode (.obj absent) := by
  simp only [List.mem_cons, List.not_mem_nil, or_false] at optional
  rcases optional with rfl | rfl | rfl
  all_goals
    simp (disch := decide) only [decode, object, null.required, null.optional]
    rw [null.optional_null own]
    rfl

theorem TableOptions.decode_null (optional : field ∈ [columnsField]) :
    decode (.obj given) = decode (.obj absent) := by
  obtain rfl := List.mem_singleton.1 optional
  simp (disch := decide) only [decode, object, null.optional]
  rw [null.optional_null own]
  rfl

/-! ## Parameters -/

namespace Parameter

theorem ofKind_null (optional : field ∈ [titleField, multipleField]) (kind : ParameterKind) :
    ofKind kind given = ofKind kind absent := by
  simp only [List.mem_cons, List.not_mem_nil, or_false] at optional
  rcases optional with rfl | rfl
  · have value : valueOfKind given kind = valueOfKind absent kind := by
      cases kind <;> simp (disch := decide) only [valueOfKind, selection, null.optional]
    simp (disch := decide) only [ofKind, value, null.required]
    rw [null.optional_null own]
    rfl
  · have selected : selection given = selection absent := by
      simp (disch := decide) only [selection, null.optional]
      rw [null.optional_null own]
      rfl
    have value : valueOfKind given kind = valueOfKind absent kind := by
      cases kind <;> simp (disch := decide) only [valueOfKind, selected, null.optional]
    simp (disch := decide) only [ofKind, value, null.required, null.optional]

theorem decode_null (optional : field ∈ [titleField, multipleField]) :
    decode (.obj given) = decode (.obj absent) := by
  have fields := ofKind_null null own optional
  have others : typeField.service ≠ field.service ∧ nameField.service ≠ field.service := by
    simp only [List.mem_cons, List.not_mem_nil, or_false] at optional
    rcases optional with rfl | rfl <;> decide
  have type := null.others _ others.1
  have name := null.others _ others.2
  simp only [decode, decodeKnown, type, name, fields]

end Parameter

end Objects

/-! ## All models -/

/-- The models with optional parts. -/
inductive PayloadModel where
  | dashboard
  | widget
  | widgetOptions
  | parameterMapping
  | query
  | queryOptions
  | parameter
  | visualization
  | tableOptions

namespace PayloadModel

/-- What a payload of a model is decoded to. -/
def Decoded : PayloadModel → Type
  | .dashboard => Dashboard
  | .widget => Widget
  | .widgetOptions => WidgetOptions
  | .parameterMapping => ParameterMapping
  | .query => Query
  | .queryOptions => QueryOptions
  | .parameter => Parameter
  | .visualization => Visualization
  | .tableOptions => TableOptions

/-- Decodes a payload of a model. -/
def decode : (model : PayloadModel) → Json → Outcome model.Decoded
  | .dashboard => Dashboard.decode
  | .widget => Widget.decode
  | .widgetOptions => WidgetOptions.decode
  | .parameterMapping => ParameterMapping.decode
  | .query => Query.decode
  | .queryOptions => QueryOptions.decode
  | .parameter => Parameter.decode
  | .visualization => Visualization.decode
  | .tableOptions => TableOptions.decode

/-- The fields of a model that a payload may leave out or hold null for. -/
def optionalFields : PayloadModel → List FieldName
  | .dashboard => [Dashboard.tagsField, Dashboard.widgetsField]
  | .widget =>
    [Widget.textField, Widget.visualizationField, Widget.visualizationIdField,
      Widget.optionsField]
  | .widgetOptions => [WidgetOptions.positionField, WidgetOptions.mappingsField]
  | .parameterMapping =>
    [ParameterMapping.mapToField, ParameterMapping.titleField, ParameterMapping.valueField]
  | .query =>
    [Query.tagsField, Query.visualizationsField, Query.optionsField, Query.scheduleField,
      Query.descriptionField]
  | .queryOptions => [QueryOptions.parametersField]
  | .parameter => [Parameter.titleField, Parameter.multipleField]
  | .visualization =>
    [Visualization.descriptionField, Visualization.optionsField, Visualization.queryField]
  | .tableOptions => [TableOptions.columnsField]

/-- **Null is as good as nothing in every optional part of the payloads.**  Two objects of a model
that differ in one of these fields alone, which is null in one and missing in the other, are
decoded to the same object or fail with the same issues, whatever their other members are.  The
field must not be there under its own name either, which would be taken where the service's name
is missing. -/
theorem decode_given_eq_absent {model : PayloadModel} {field : FieldName} {given absent : Members}
    (optional : field ∈ model.optionalFields) (null : NullFor field.service given absent)
    (own : absent.lookup field.own = none) :
    model.decode (.obj given) = model.decode (.obj absent) := by
  cases model with
  | dashboard => exact Dashboard.decode_null null own optional
  | widget => exact Widget.decode_null null own optional
  | widgetOptions => exact WidgetOptions.decode_null null own optional
  | parameterMapping => exact ParameterMapping.decode_null null own optional
  | query => exact Query.decode_null null own optional
  | queryOptions => exact QueryOptions.decode_null null own optional
  | parameter => exact Parameter.decode_null null own optional
  | visualization => exact Visualization.decode_null null own optional
  | tableOptions => exact TableOptions.decode_null null own optional

/-- A widget without an id whose text is a number. -/
def untidyWidget : Members := [("text", .int 1), ("visualization_id", .int 7)]

theorem decode_given_eq_absent_untidyWidget :
    Widget.optionsField ∈ PayloadModel.widget.optionalFields ∧
      NullFor Widget.optionsField.service (("options", .null) :: untidyWidget) untidyWidget ∧
      untidyWidget.lookup Widget.optionsField.own = none ∧
      Widget.decode (.obj (("options", .null) :: untidyWidget)) =
        Widget.decode (.obj untidyWidget) ∧
      Widget.decode (.obj untidyWidget) =
        .invalid [⟨[.key "id"], .missing⟩, ⟨[.key "text"], .notString⟩] := by
  have optional : Widget.optionsField ∈ PayloadModel.widget.optionalFields := by
    simp [optionalFields]
  have null := @nullFor_append_cons "options" [] untidyWidget rfl rfl
  exact ⟨optional, null, rfl, decode_given_eq_absent optional null rfl, rfl⟩

end PayloadModel

end DashboardExport
