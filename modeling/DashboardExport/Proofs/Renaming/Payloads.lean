import DashboardExport.Inventory.Basic
import DashboardExport.Proofs.Agreement
import DashboardExport.Proofs.Decoding.Values

/-!
# Payloads under other ids

A renaming gives other ids to the objects of each kind and to the visualizations; different
ids stay different (`IdRenaming`).  A payload is renamed field by field: the fields that
hold ids of these objects hold the new ones, ids of widgets are any others, and all other
fields are the same (`IdRenaming.widgetField` and its like).

What is decoded from a renamed payload is what is decoded from the payload, up to these
ids, and one can be decoded when the other can (`decode_widget_agree` and its like).
-/

set_option autoImplicit false

namespace DashboardExport

open Decoding

/-! ## Decoding with agreement -/

namespace Decoding

namespace Outcome

variable {α β : Type}

theorem map_ne_value {change : α → β} {outcome : Outcome α}
    (noValue : ∀ given, outcome ≠ .value given) (result : β) :
    change <$> outcome ≠ .value result := by
  intro made
  obtain ⟨given, valued, _⟩ := map_eq_value_iff.1 made
  exact noValue given valued

theorem seq_ne_value {earlier : Outcome (α → β)} {field : Outcome α}
    (noValue : (∀ build, earlier ≠ .value build) ∨ ∀ given, field ≠ .value given) (result : β) :
    earlier <*> field ≠ .value result := by
  intro made
  obtain ⟨build, given, built, valued, _⟩ := seq_eq_value_iff.1 made
  rcases noValue with noBuild | noGiven
  · exact noBuild build built
  · exact noGiven given valued

/-- Without a value there is a refusal. -/
theorem exists_refusal {outcome : Outcome α} (noValue : ∀ given, outcome ≠ .value given)
    (subject : Subject) : ∃ refusal, Refusal.ofOutcome subject outcome = .error refusal := by
  cases outcome with
  | value given => exact absurd rfl (noValue given)
  | invalid issues => exact ⟨_, rfl⟩
  | rejected rejection => exact ⟨_, rfl⟩

end Outcome

/-- Both outcomes are related values, or neither is a value. -/
inductive Outcome.Agree {α β : Type} (relation : α → β → Prop) : Outcome α → Outcome β → Prop where
  | value {result : α} {result' : β} (related : relation result result') :
      Agree relation (.value result) (.value result')
  | none {first : Outcome α} {second : Outcome β} (noValue : ∀ result, first ≠ .value result)
      (noValue' : ∀ result, second ≠ .value result) : Agree relation first second

namespace Outcome.Agree

variable {α β γ κ : Type} {relation : α → β → Prop} {relation' : γ → κ → Prop}
  {first : Outcome α} {second : Outcome β}

theorem refl {relation : α → α → Prop} (related : ∀ result, relation result result)
    (outcome : Outcome α) : Agree relation outcome outcome := by
  cases outcome with
  | value result => exact .value (related result)
  | invalid issues => exact .none (fun _ => nofun) (fun _ => nofun)
  | rejected rejection => exact .none (fun _ => nofun) (fun _ => nofun)

theorem map {change : α → γ} {change' : β → κ} (agree : Agree relation first second)
    (step : ∀ a b, relation a b → relation' (change a) (change' b)) :
    Agree relation' (change <$> first) (change' <$> second) := by
  cases agree with
  | value related => exact .value (step _ _ related)
  | none noValue noValue' => exact .none (map_ne_value noValue) (map_ne_value noValue')

/-- **Another field is decoded with agreement.** -/
theorem seq {builds : Outcome (α → γ)} {builds' : Outcome (β → κ)}
    (earlier : Agree (fun build build' => ∀ a b, relation a b → relation' (build a) (build' b))
      builds builds')
    (field : Agree relation first second) :
    Agree relation' (builds <*> first) (builds' <*> second) := by
  cases earlier with
  | none noBuild noBuild' =>
      exact .none (seq_ne_value (.inl noBuild)) (seq_ne_value (.inl noBuild'))
  | value steps =>
      cases field with
      | value related => exact .value (steps _ _ related)
      | none noValue noValue' =>
          exact .none (seq_ne_value (.inr noValue)) (seq_ne_value (.inr noValue'))

theorem under (step step' : Step) (agree : Agree relation first second) :
    Agree relation (first.under step) (second.under step') := by
  cases agree with
  | value related => exact .value related
  | none noValue noValue' =>
      exact .none (fun result made => noValue result (under_eq_value_iff.1 made))
        (fun result made => noValue' result (under_eq_value_iff.1 made))

theorem ofOutcome (subject subject' : Subject) (agree : Agree relation first second) :
    DashboardExport.Agree relation (Refusal.ofOutcome subject first)
      (Refusal.ofOutcome subject' second) := by
  cases agree with
  | value related => exact .ok related
  | none noValue noValue' =>
      obtain ⟨refusal, refused⟩ := exists_refusal noValue subject
      obtain ⟨refusal', refused'⟩ := exists_refusal noValue' subject'
      rw [refused, refused']
      exact .error refusal refusal'

end Outcome.Agree

section Fields

variable {α β : Type} {fields : Json → Json → Prop} {values : α → β → Prop} {name : String}
  {members members' : Members} {decode : Json → Outcome α} {decode' : Json → Outcome β}

theorem FieldName.required_agree
    (same : Option.Rel fields (members.lookup name) (members'.lookup name))
    (reads : ∀ {value value'}, fields value value' →
      Outcome.Agree values (decode value) (decode' value')) :
    Outcome.Agree values ((FieldName.same name).required decode members)
      ((FieldName.same name).required decode' members') := by
  rw [required, required, find?_same, find?_same]
  generalize members.lookup name = found, members'.lookup name = found' at same
  cases same with
  | none => exact .none (fun _ => nofun) (fun _ => nofun)
  | some related => exact (reads related).under _ _

theorem FieldName.optional_agree {default : α} {default' : β} (defaults : values default default')
    (same : Option.Rel fields (members.lookup name) (members'.lookup name))
    (reads : ∀ {value value'}, fields value value' →
      Outcome.Agree values (decode value) (decode' value')) :
    Outcome.Agree values ((FieldName.same name).optional default decode members)
      ((FieldName.same name).optional default' decode' members') := by
  rw [optional, optional, find?_same, find?_same]
  generalize members.lookup name = found, members'.lookup name = found' at same
  cases same with
  | none => exact .value defaults
  | some related => exact (reads related).under _ _

/-- Values that are null alike are decoded with agreement when others are. -/
theorem nullable_agree {value value' : Json} (null : value = .null ↔ value' = .null)
    (reads : Outcome.Agree values (decode value) (decode' value')) :
    Outcome.Agree (Option.Rel values) (nullable decode value) (nullable decode' value') := by
  by_cases isNull : value = .null
  · rw [null.1 isNull, isNull]
    exact .value .none
  · have isNull' : value' ≠ .null := fun same => isNull (null.2 same)
    rw [nullable, nullable]
    · exact reads.map fun _ _ related => .some related
    · exact isNull'
    · exact isNull

end Fields

/-! ## Related payloads -/

/-- A field that holds an id, with another id in its place.  What is no id stays as it is. -/
inductive IdField (renamed : String → String → Prop) : Json → Json → Prop where
  | id {value value' : Json} {id id' : String} (reads : remoteId value = .value id)
      (reads' : remoteId value' = .value id') (same : renamed id id') :
      IdField renamed value value'
  | other {value : Json} (noId : ∀ id, remoteId value ≠ .value id) : IdField renamed value value

/-- Objects whose fields are related name by name.  What is no object stays as it is. -/
inductive Fieldwise (fields : String → Json → Json → Prop) : Json → Json → Prop where
  | objects {members members' : Members}
      (same : ∀ name, Option.Rel (fields name) (members.lookup name) (members'.lookup name)) :
      Fieldwise fields (.obj members) (.obj members')
  | others {value : Json} (noObject : ∀ members, value ≠ .obj members) :
      Fieldwise fields value value

section Values

variable {renamed : String → String → Prop} {fields : String → Json → Json → Prop}
  {value value' : Json}

theorem IdField.remoteId_agree (same : IdField renamed value value') :
    Outcome.Agree renamed (remoteId value) (remoteId value') := by
  cases same with
  | id reads reads' same =>
      rw [reads, reads']
      exact .value same
  | other noId => exact .none noId noId

/-- Null is no id. -/
theorem IdField.null_iff (same : IdField renamed value value') :
    value = .null ↔ value' = .null := by
  cases same with
  | id reads reads' _ =>
      constructor
      · rintro rfl
        cases reads
      · rintro rfl
        cases reads'
  | other _ => exact Iff.rfl

theorem Fieldwise.null_iff (same : Fieldwise fields value value') :
    value = .null ↔ value' = .null := by
  cases same with
  | objects _ => exact ⟨nofun, nofun⟩
  | others _ => exact Iff.rfl

/-- Objects are decoded with agreement when their members are. -/
theorem Fieldwise.object_agree {α β : Type} {values : α → β → Prop}
    {decode : Members → Outcome α} {decode' : Members → Outcome β}
    (same : Fieldwise fields value value')
    (reads : ∀ {members members' : Members},
      (∀ name, Option.Rel (fields name) (members.lookup name) (members'.lookup name)) →
        Outcome.Agree values (decode members) (decode' members')) :
    Outcome.Agree values (object decode value) (object decode' value') := by
  cases same with
  | objects same => exact reads same
  | others noObject =>
      cases value with
      | obj members => exact absurd rfl (noObject members)
      | _ => exact .none (fun _ => nofun) (fun _ => nofun)

end Values

section Same

variable {α : Type} {name : String} {decode : Json → Outcome α} {members members' : Members}
  (same : Option.Rel Eq (members.lookup name) (members'.lookup name))
include same

/-- A field that is not renamed is decoded to the same value. -/
theorem FieldName.required_same :
    Outcome.Agree Eq ((FieldName.same name).required decode members)
      ((FieldName.same name).required decode members') := by
  refine required_agree same ?_
  intro value value' equal
  rw [equal]
  exact .refl (fun _ => rfl) _

theorem FieldName.optional_same {default : α} :
    Outcome.Agree Eq ((FieldName.same name).optional default decode members)
      ((FieldName.same name).optional default decode members') := by
  refine optional_agree rfl same ?_
  intro value value' equal
  rw [equal]
  exact .refl (fun _ => rfl) _

end Same

/-- A payload that is kept for later, or null. -/
theorem FieldName.payload_agree {fields : String → Json → Json → Prop} {name : String}
    {members members' : Members}
    (same : Option.Rel (Fieldwise fields) (members.lookup name) (members'.lookup name)) :
    Outcome.Agree (Option.Rel (Fieldwise fields))
      ((FieldName.same name).optional none (nullable raw) members)
      ((FieldName.same name).optional none (nullable raw) members') :=
  optional_agree .none same fun related => nullable_agree related.null_iff (.value related)

end Decoding

/-! ## Renamed payloads -/

/-- A renaming of the ids of dashboards, of queries and of visualizations.  Different ids of one
kind get different new ids. -/
structure IdRenaming where
  object : RemoteKind → String → String
  visualization : String → String
  object_injective : ∀ kind, Function.Injective (object kind)
  visualization_injective : Function.Injective visualization

namespace IdRenaming

/-- The ids of objects of a kind. -/
def ObjectIds (ρ : IdRenaming) (kind : RemoteKind) (id id' : String) : Prop :=
  id' = ρ.object kind id

/-- The ids of visualizations. -/
def VisualizationIds (ρ : IdRenaming) (id id' : String) : Prop :=
  id' = ρ.visualization id

/-- The fields of a reference to a query. -/
def referenceField (ρ : IdRenaming) : String → Json → Json → Prop
  | "id" => IdField (ρ.ObjectIds .query)
  | _ => Eq

/-- The fields of a visualization. -/
def visualizationField (ρ : IdRenaming) : String → Json → Json → Prop
  | "id" => IdField ρ.VisualizationIds
  | "query" => Fieldwise ρ.referenceField
  | _ => Eq

/-- The fields of a widget.  Its own id may be any other. -/
def widgetField (ρ : IdRenaming) : String → Json → Json → Prop
  | "id" => IdField fun _ _ => True
  | "visualization_id" => IdField ρ.VisualizationIds
  | "visualization" => Fieldwise ρ.visualizationField
  | _ => Eq

/-- Visualizations that were decoded. -/
structure Visualizations (ρ : IdRenaming) (shown shown' : Visualization) : Prop where
  id : ρ.VisualizationIds shown.id shown'.id
  type : shown.type = shown'.type
  name : shown.name = shown'.name
  description : shown.description = shown'.description
  options : shown.options = shown'.options
  query : Option.Rel (Fieldwise ρ.referenceField) shown.query shown'.query

/-- Widgets that were decoded. -/
structure Widgets (ρ : IdRenaming) (widget widget' : Widget) : Prop where
  text : widget.text = widget'.text
  visualization : Option.Rel (Fieldwise ρ.visualizationField) widget.visualization
    widget'.visualization
  visualizationId : Option.Rel ρ.VisualizationIds widget.visualizationId widget'.visualizationId
  options : widget.options = widget'.options

variable {ρ : IdRenaming} {payload payload' : Json}

theorem decode_reference_agree (same : Fieldwise ρ.referenceField payload payload') :
    Outcome.Agree (fun reference reference' => ρ.ObjectIds .query reference.id reference'.id)
      (QueryRef.decode payload) (QueryRef.decode payload') := by
  refine same.object_agree ?_
  intro members members' same
  exact (FieldName.required_agree (same "id") IdField.remoteId_agree).map fun _ _ id => id

/-- **A renamed visualization is decoded when it is without the renaming.** -/
theorem decode_visualization_agree (same : Fieldwise ρ.visualizationField payload payload') :
    Outcome.Agree ρ.Visualizations (Visualization.decode payload)
      (Visualization.decode payload') := by
  refine same.object_agree ?_
  intro members members' same
  refine .seq (.seq (.seq (.seq (.seq (.seq (.map
    (FieldName.required_agree (same "id") IdField.remoteId_agree) ?_)
    (FieldName.optional_same (same "query_id")))
    (FieldName.required_same (same "type")))
    (FieldName.optional_same (same "name")))
    (FieldName.optional_same (same "description")))
    (FieldName.optional_same (same "options")))
    (FieldName.payload_agree (same "query"))
  intro _ _ id _ _ _ _ _ type _ _ name _ _ description _ _ options _ _ query
  exact ⟨id, type, name, description, options, query⟩

/-- **A renamed widget is decoded when it is without the renaming.** -/
theorem decode_widget_agree (same : Fieldwise ρ.widgetField payload payload') :
    Outcome.Agree ρ.Widgets (Widget.decode payload) (Widget.decode payload') := by
  refine same.object_agree ?_
  intro members members' same
  refine .seq (.seq (.seq (.seq (.seq (.map
    (FieldName.required_agree (same "id") IdField.remoteId_agree) ?_)
    (FieldName.optional_same (same "dashboard_id")))
    (FieldName.optional_same (same "text")))
    (FieldName.payload_agree (same "visualization")))
    (FieldName.optional_agree .none (same "visualization_id") fun id =>
      nullable_agree id.null_iff id.remoteId_agree))
    (FieldName.optional_same (same "options"))
  intro _ _ _ _ _ _ _ _ text _ _ visualization _ _ visualizationId _ _ options
  exact ⟨text, visualization, visualizationId, options⟩

end IdRenaming

end DashboardExport
