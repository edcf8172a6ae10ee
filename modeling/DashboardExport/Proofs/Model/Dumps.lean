import DashboardExport.Model.Dashboard
import DashboardExport.Model.Query
import DashboardExport.Model.TableOptions
import DashboardExport.Model.Visualization
import DashboardExport.Proofs.Decoding.Dumps

/-!
# Decoded objects are read back

Every object that can be decoded is written out with all its fields, each in the one form
that the object has for it.  So it is decoded from what was written out, whether its fields
stand there under the service's names or under those of this program, and it comes back as
it was (`restores_dump`).  The one exception is a number that was not given: it is written
out as an integer of zero, and comes back as a number of zero (`Parameter.back`).

A payload that is kept for later is written out as it is.  If it is optional then it is not
null, because null counts as absent when it is decoded (`Widget.shows_of_decode`).
-/

set_option autoImplicit false

namespace DashboardExport

open Decoding Outcome

variable (naming : Naming)

/-! ## Parts of dashboards -/

theorem WidgetPosition.decode_dump (p : WidgetPosition) : decode (p.dump naming) = .value p :=
  seq_value_of (seq_value_of (seq_value_of (seq_value_of (map_value_of WidgetPosition.mk
    (autoHeightField.optional_dumped (boolean_bool _) (by cases naming <;> rfl)))
    (sizeXField.optional_dumped (integer_int _) (by cases naming <;> rfl)))
    (sizeYField.optional_dumped (integer_int _) (by cases naming <;> rfl)))
    (columnField.optional_dumped (integer_int _) (by cases naming <;> rfl)))
    (rowField.optional_dumped (integer_int _) (by cases naming <;> rfl))

theorem ParameterMapping.decode_dump (m : ParameterMapping) : decode (m.dump naming) = .value m :=
  seq_value_of (seq_value_of (seq_value_of (seq_value_of (map_value_of ParameterMapping.mk
    (nameField.required_dumped (string_str _) (by cases naming <;> rfl)))
    (typeField.required_dumped (string_str _) (by cases naming <;> rfl)))
    (mapToField.optional_dumped (nullable_string _) (by cases naming <;> rfl)))
    (titleField.optional_dumped (nullable_string _) (by cases naming <;> rfl)))
    (valueField.optional_dumped (raw_self _) (by cases naming <;> rfl))

namespace WidgetOptions

theorem decode_dump (o : WidgetOptions) : decode (o.dump naming) = .value o := by
  have position := nullable_getD (WidgetPosition.decode_dump naming) (fun _ => nofun) o.position
  have mappings : decodeMappings
      (.obj (o.mappings.map fun entry => (entry.1, entry.2.dump naming))) = .value o.mappings :=
    dictionary_map (ParameterMapping.decode_dump naming) o.mappings
  exact seq_value_of (map_value_of WidgetOptions.mk
    (positionField.optional_dumped position (by cases naming <;> rfl)))
    (mappingsField.optional_dumped mappings (by cases naming <;> rfl))

theorem decodeOrNull_dump (o : WidgetOptions) : decodeOrNull (o.dump naming) = .value o :=
  decode_dump naming o

end WidgetOptions

namespace Widget

theorem decode_dump {w : Widget} (shows : w.visualization ≠ some .null) :
    decode (w.dump naming) = .value w := by
  have link := nullable_getD remoteId_str (fun _ => nofun) w.visualizationId
  exact seq_value_of (seq_value_of (seq_value_of (seq_value_of (seq_value_of (map_value_of Widget.mk
    (idField.required_dumped (remoteId_str _) (by cases naming <;> rfl)))
    (dashboardIdField.optional_dumped (string_str _) (by cases naming <;> rfl)))
    (textField.optional_dumped (nullable_string _) (by cases naming <;> rfl)))
    (visualizationField.optional_dumped (nullable_raw shows) (by cases naming <;> rfl)))
    (visualizationIdField.optional_dumped link (by cases naming <;> rfl)))
    (optionsField.optional_dumped (WidgetOptions.decodeOrNull_dump naming _)
      (by cases naming <;> rfl))

end Widget

theorem Dashboard.decode_dump (d : Dashboard) : decode (d.dump naming) = .value d :=
  seq_value_of (seq_value_of (seq_value_of (map_value_of Dashboard.mk
    (idField.required_dumped (remoteId_str _) (by cases naming <;> rfl)))
    (nameField.required_dumped (string_str _) (by cases naming <;> rfl)))
    (tagsField.optional_dumped (listOrNull_string _) (by cases naming <;> rfl)))
    (widgetsField.optional_dumped (listOrNull_raw _) (by cases naming <;> rfl))

/-! ## Tables -/

theorem TableColumn.decode_dump (c : TableColumn) : decode (c.dump naming) = .value c :=
  seq_value_of (seq_value_of (seq_value_of (seq_value_of (seq_value_of (seq_value_of
    (seq_value_of (seq_value_of (seq_value_of (seq_value_of (seq_value_of (seq_value_of
    (seq_value_of (seq_value_of (seq_value_of (seq_value_of (seq_value_of (seq_value_of
    (seq_value_of (map_value_of TableColumn.mk
      (nameField.optional_dumped (string_str _) (by cases naming <;> rfl)))
      (typeField.optional_dumped (string_str _) (by cases naming <;> rfl)))
      (titleField.optional_dumped (string_str _) (by cases naming <;> rfl)))
      (displayAsField.optional_dumped (string_str _) (by cases naming <;> rfl)))
      (allowSearchField.optional_dumped (boolean_bool _) (by cases naming <;> rfl)))
      (numberFormatField.optional_dumped (string_str _) (by cases naming <;> rfl)))
      (booleanValuesField.optional_dumped (list_map string_str _) (by cases naming <;> rfl)))
      (imageUrlTemplateField.optional_dumped (string_str _) (by cases naming <;> rfl)))
      (imageTitleTemplateField.optional_dumped (string_str _) (by cases naming <;> rfl)))
      (imageWidthField.optional_dumped (string_str _) (by cases naming <;> rfl)))
      (imageHeightField.optional_dumped (string_str _) (by cases naming <;> rfl)))
      (linkUrlTemplateField.optional_dumped (string_str _) (by cases naming <;> rfl)))
      (linkTextTemplateField.optional_dumped (string_str _) (by cases naming <;> rfl)))
      (linkTitleTemplateField.optional_dumped (string_str _) (by cases naming <;> rfl)))
      (linkOpenInNewTabField.optional_dumped (boolean_bool _) (by cases naming <;> rfl)))
      (visibleField.optional_dumped (boolean_bool _) (by cases naming <;> rfl)))
      (orderField.optional_dumped (integer_int _) (by cases naming <;> rfl)))
      (alignContentField.optional_dumped (string_str _) (by cases naming <;> rfl)))
      (allowHtmlField.optional_dumped (boolean_bool _) (by cases naming <;> rfl)))
      (highlightLinksField.optional_dumped (boolean_bool _) (by cases naming <;> rfl))

theorem TableOptions.decode_dump (o : TableOptions) : decode (o.dump naming) = .value o := by
  have columns : listOrNull TableColumn.decode (.arr (o.columns.map (TableColumn.dump naming))) =
      .value o.columns := list_map (TableColumn.decode_dump naming) o.columns
  exact seq_value_of (map_value_of TableOptions.mk
    (itemsPerPageField.optional_dumped (integer_int _) (by cases naming <;> rfl)))
    (columnsField.optional_dumped columns (by cases naming <;> rfl))

/-! ## Visualizations -/

theorem Visualization.decode_dump {v : Visualization} (embeds : v.query ≠ some .null) :
    decode (v.dump naming) = .value v :=
  seq_value_of (seq_value_of (seq_value_of (seq_value_of (seq_value_of (seq_value_of
    (map_value_of Visualization.mk
    (idField.required_dumped (remoteId_str _) (by cases naming <;> rfl)))
    (queryIdField.optional_dumped (string_str _) (by cases naming <;> rfl)))
    (typeField.required_dumped (string_str _) (by cases naming <;> rfl)))
    (nameField.optional_dumped (string_str _) (by cases naming <;> rfl)))
    (descriptionField.optional_dumped (nullable_string _) (by cases naming <;> rfl)))
    (optionsField.optional_dumped (raw_self _) (by cases naming <;> rfl)))
    (queryField.optional_dumped (nullable_raw embeds) (by cases naming <;> rfl))

/-! ## Parameters -/

theorem MultipleValues.decode_dump (m : MultipleValues) : decode (m.dump naming) = .value m :=
  seq_value_of (seq_value_of (map_value_of MultipleValues.mk
    (beforeField.optional_dumped (string_str _) (by cases naming <;> rfl)))
    (afterField.optional_dumped (string_str _) (by cases naming <;> rfl)))
    (separatorField.optional_dumped (string_str _) (by cases naming <;> rfl))

/-- A value as it comes back: a number that was not given is the number zero. -/
def ParameterValue.back : ParameterValue → ParameterValue
  | .number none => .number (some (Binary64.ofInt 0))
  | other => other

namespace Parameter

/-- A parameter as it comes back. -/
def back (p : Parameter) : Parameter := { p with value := p.value.back }

theorem plainValues_map (values : List String) :
    plainValues (.arr (values.map .str)) = .value values := by
  rw [plainValues, List.map_map]
  exact congrArg Outcome.value (List.map_id' values)

theorem selection_dump {s : Selection} {members : Members}
    (values : (valuesField.find? members).map Prod.snd = some (.arr (s.values.map .str)))
    (multiple : (multipleField.find? members).map Prod.snd =
      some ((s.multiple.map (MultipleValues.dump naming)).getD .null)) :
    selection members = .value s := by
  have joined := nullable_getD (MultipleValues.decode_dump naming) (fun _ => nofun) s.multiple
  exact seq_value_of (map_value_of Selection.mk
    (valuesField.optional_dumped (plainValues_map _) values))
    (multipleField.optional_dumped joined multiple)

/-- The members that a parameter is written out as. -/
def dumpMembers (p : Parameter) : Members :=
  [(nameField.under naming, .str p.name),
    (titleField.under naming, (p.title.map Json.str).getD .null)] ++ dumpValue naming p.value ++
    [(typeField.under naming, .str p.kind.discriminant)]

theorem valueOfKind_dump (p : Parameter) :
    valueOfKind (p.dumpMembers naming) p.kind = .value p.value.back := by
  obtain ⟨name, title, held⟩ := p
  cases held with
  | single kind text =>
      have read : singleText (.str text) = .value text := rfl
      exact map_value_of (ParameterValue.single kind)
        (valueField.optional_dumped read (by cases naming <;> rfl))
  | number given =>
      cases given with
      | none =>
          have finite : (Binary64.ofInt 0).isFinite = true := by decide +kernel
          have read : (number (.int 0)).map some = .value (some (Binary64.ofInt 0)) := by
            rw [number, Scalar.ofJson, Scalar.number, if_pos finite]
            rfl
          exact map_value_of ParameterValue.number
            (valueField.optional_dumped read (by cases naming <;> rfl))
      | some x =>
          have read : (number (.float x)).map some = .value (some x) := rfl
          exact map_value_of ParameterValue.number
            (valueField.optional_dumped read (by cases naming <;> rfl))
  | choice s options =>
      exact seq_value_of (map_value_of ParameterValue.choice
        (selection_dump naming (by cases naming <;> rfl) (by cases naming <;> rfl)))
        (optionsField.optional_dumped (string_str _) (by cases naming <;> rfl))
  | queryBacked s queryId =>
      exact seq_value_of (map_value_of ParameterValue.queryBacked
        (selection_dump naming (by cases naming <;> rfl) (by cases naming <;> rfl)))
        (queryIdField.optional_dumped (remoteId_str _) (by cases naming <;> rfl))

theorem lookup_type_dump (p : Parameter) :
    (p.dumpMembers naming).lookup typeField.service = some (.str p.kind.discriminant) := by
  obtain ⟨name, title, held⟩ := p
  rcases held with _ | ⟨_ | _⟩ | _ | _ <;> cases naming <;> rfl

/-- **Parameters of all ten kinds are read back.** -/
theorem decode_dump (p : Parameter) : decode (p.dump naming) = .value p.back := by
  have read : ofKind p.kind (p.dumpMembers naming) = .value p.back :=
    seq_value_of (seq_value_of (map_value_of Parameter.mk
      (nameField.required_dumped (string_str _) (by cases naming <;> rfl)))
      (titleField.optional_dumped (nullable_string _) (by cases naming <;> rfl)))
      (valueOfKind_dump naming p)
  show decode (.obj (p.dumpMembers naming)) = _
  rw [decode, lookup_type_dump, Option.getD_some]
  dsimp only
  rw [ParameterKind.ofDiscriminant?_discriminant]
  dsimp only
  rw [decodeKnown, read]

end Parameter

/-! ## Queries -/

theorem Schedule.decode_dump (s : Schedule) : decode (s.dump naming) = .value s :=
  map_value_of Schedule.mk
    (intervalField.required_dumped (integer_int _) (by cases naming <;> rfl))

theorem QueryRef.decode_dump (r : QueryRef) : decode (r.dump naming) = .value r :=
  map_value_of QueryRef.mk
    (idField.required_dumped (remoteId_str _) (by cases naming <;> rfl))

namespace QueryOptions

/-- Options as they come back. -/
def back (o : QueryOptions) : QueryOptions := ⟨o.parameters.map Parameter.back⟩

theorem decode_dump (o : QueryOptions) : decode (o.dump naming) = .value o.back := by
  have parameters : Parameter.decodeList (.arr (o.parameters.map (Parameter.dump naming))) =
      .value (o.parameters.map Parameter.back) :=
    itemsFrom_map (Parameter.decode_dump naming) o.parameters 0
  exact map_value_of QueryOptions.mk
    (parametersField.optional_dumped parameters (by cases naming <;> rfl))

theorem decodeOrNull_dump (o : QueryOptions) : decodeOrNull (o.dump naming) = .value o.back :=
  decode_dump naming o

end QueryOptions

namespace Query

/-- A query as it comes back. -/
def back (q : Query) : Query := { q with options := q.options.back }

theorem decode_dump (q : Query) : decode (q.dump naming) = .value q.back := by
  have schedule := nullable_getD (Schedule.decode_dump naming) (fun _ => nofun) q.schedule
  exact seq_value_of (seq_value_of (seq_value_of (seq_value_of (seq_value_of (seq_value_of
    (seq_value_of (seq_value_of (map_value_of Query.mk
    (idField.required_dumped (remoteId_str _) (by cases naming <;> rfl)))
    (dataSourceIdField.optional_dumped (string_str _) (by cases naming <;> rfl)))
    (nameField.required_dumped (string_str _) (by cases naming <;> rfl)))
    (descriptionField.optional_dumped (nullable_string _) (by cases naming <;> rfl)))
    (textField.optional_dumped (string_str _) (by cases naming <;> rfl)))
    (scheduleField.optional_dumped schedule (by cases naming <;> rfl)))
    (optionsField.optional_dumped (QueryOptions.decodeOrNull_dump naming _)
      (by cases naming <;> rfl)))
    (tagsField.optional_dumped (listOrNull_string _) (by cases naming <;> rfl)))
    (visualizationsField.optional_dumped (listOrNull_raw _) (by cases naming <;> rfl))

end Query

/-! ## Payloads that are kept for later -/

/-- An optional payload that was decoded is not null. -/
theorem FieldName.ne_of_optional_payload {field : FieldName} {members : Members}
    {payload : Option Json}
    (read : field.optional none (nullable raw) members = .value payload) :
    payload ≠ some .null := by
  rcases FieldName.of_optional_eq_value read with rfl | ⟨_, _, _, given⟩
  · nofun
  · exact ne_of_nullable_raw given

theorem Widget.shows_of_decode {payload : Json} {w : Widget} (read : decode payload = .value w) :
    w.visualization ≠ some .null := by
  cases payload with
  | obj members =>
      obtain ⟨_, _, toLink, _, rfl⟩ := seq_eq_value_iff.1 read
      obtain ⟨_, _, toVisualization, _, rfl⟩ := seq_eq_value_iff.1 toLink
      obtain ⟨_, _, toText, shown, rfl⟩ := seq_eq_value_iff.1 toVisualization
      obtain ⟨_, _, toOwner, _, rfl⟩ := seq_eq_value_iff.1 toText
      obtain ⟨_, _, toId, _, rfl⟩ := seq_eq_value_iff.1 toOwner
      obtain ⟨_, _, rfl⟩ := map_eq_value_iff.1 toId
      exact FieldName.ne_of_optional_payload shown
  | _ => cases read

theorem Visualization.embeds_of_decode {payload : Json} {v : Visualization}
    (read : decode payload = .value v) : v.query ≠ some .null := by
  cases payload with
  | obj members =>
      obtain ⟨_, _, toOptions, embedded, rfl⟩ := seq_eq_value_iff.1 read
      obtain ⟨_, _, toDescription, _, rfl⟩ := seq_eq_value_iff.1 toOptions
      obtain ⟨_, _, toName, _, rfl⟩ := seq_eq_value_iff.1 toDescription
      obtain ⟨_, _, toType, _, rfl⟩ := seq_eq_value_iff.1 toName
      obtain ⟨_, _, toOwner, _, rfl⟩ := seq_eq_value_iff.1 toType
      obtain ⟨_, _, toId, _, rfl⟩ := seq_eq_value_iff.1 toOwner
      obtain ⟨_, _, rfl⟩ := map_eq_value_iff.1 toId
      exact FieldName.ne_of_optional_payload embedded
  | _ => cases read

/-! ## All models -/

/-- **What is written out of a decoded object is decoded to that object again**, under either
naming and for every model.  Only a number that was not given comes back as a given one. -/
theorem restores_dump :
    Restores Dashboard.decode (Dashboard.dump naming) id ∧
    Restores Widget.decode (Widget.dump naming) id ∧
    Restores WidgetOptions.decode (WidgetOptions.dump naming) id ∧
    Restores WidgetPosition.decode (WidgetPosition.dump naming) id ∧
    Restores ParameterMapping.decode (ParameterMapping.dump naming) id ∧
    Restores Visualization.decode (Visualization.dump naming) id ∧
    Restores TableOptions.decode (TableOptions.dump naming) id ∧
    Restores TableColumn.decode (TableColumn.dump naming) id ∧
    Restores Query.decode (Query.dump naming) Query.back ∧
    Restores QueryRef.decode (QueryRef.dump naming) id ∧
    Restores Schedule.decode (Schedule.dump naming) id ∧
    Restores QueryOptions.decode (QueryOptions.dump naming) QueryOptions.back ∧
    Restores MultipleValues.decode (MultipleValues.dump naming) id ∧
    Restores Parameter.decode (Parameter.dump naming) Parameter.back :=
  ⟨fun _ d _ => d.decode_dump naming,
    fun _ _ read => Widget.decode_dump naming (Widget.shows_of_decode read),
    fun _ o _ => o.decode_dump naming,
    fun _ p _ => p.decode_dump naming,
    fun _ m _ => m.decode_dump naming,
    fun _ _ read => Visualization.decode_dump naming (Visualization.embeds_of_decode read),
    fun _ o _ => o.decode_dump naming,
    fun _ c _ => c.decode_dump naming,
    fun _ q _ => q.decode_dump naming,
    fun _ r _ => r.decode_dump naming,
    fun _ s _ => s.decode_dump naming,
    fun _ o _ => o.decode_dump naming,
    fun _ m _ => m.decode_dump naming,
    fun _ p _ => p.decode_dump naming⟩

/-- A number parameter without its number. -/
def numberlessParameter : Json := .obj [("type", .str "number"), ("name", .str "limit")]

theorem restores_dump_numberless :
    ∃ p, Parameter.decode numberlessParameter = .value p ∧ p.back ≠ p ∧
      Parameter.decode (p.dump .service) = .value p.back ∧
      Parameter.decode (p.back.dump .service) = .value p.back := by
  obtain ⟨-, -, -, -, -, -, -, -, -, -, -, -, -, restores⟩ := restores_dump .service
  have read : Parameter.decode numberlessParameter = .value ⟨"limit", none, .number none⟩ := rfl
  have again := restores _ _ read
  exact ⟨_, read, by decide +kernel, again, restores _ _ again⟩

end DashboardExport
