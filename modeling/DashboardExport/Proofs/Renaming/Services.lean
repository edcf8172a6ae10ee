import DashboardExport.Proofs.Inventory.Growth
import DashboardExport.Proofs.Renaming.Loads

/-!
# Renamed services

The new ids are put into a payload field by field.  Every service can be renamed: the
renamed one looks up the old id of what it is asked for, and puts the new ids into the
answer (`fetchers_fetcher`).
-/

set_option autoImplicit false

namespace DashboardExport

open Decoding Service

/-! ## Renaming payloads -/

namespace Decoding

/-- The value of a field that holds an id, with another id. -/
def renameId (change : String → String) (value : Json) : Json :=
  match remoteId value with
  | .value id => .str (change id)
  | _ => value

theorem idField_renameId {renamed : String → String → Prop} {change : String → String}
    (related : ∀ id, renamed id (change id)) (value : Json) :
    IdField renamed value (renameId change value) := by
  rw [renameId]
  cases reads : remoteId value with
  | value id => exact .id reads rfl (related id)
  | invalid issues =>
      refine .other ?_
      intro id valued
      cases reads.symm.trans valued
  | rejected rejection =>
      refine .other ?_
      intro id valued
      cases reads.symm.trans valued

/-- An object with other values in its fields. -/
def renameFields (change : String → Json → Json) : Json → Json
  | .obj members => .obj (members.map fun member => (member.1, change member.1 member.2))
  | value => value

theorem lookup_map_values (change : String → Json → Json) (name : String) (members : Members) :
    (members.map fun member => (member.1, change member.1 member.2)).lookup name =
      (members.lookup name).map (change name) := by
  induction members with
  | nil => rfl
  | cons first rest ih =>
      rw [List.map_cons, List.lookup_cons, List.lookup_cons]
      cases here : name == first.1 with
      | true =>
          rw [eq_of_beq here]
          rfl
      | false => exact ih

theorem fieldwise_renameFields {fields : String → Json → Json → Prop}
    {change : String → Json → Json} (each : ∀ name value, fields name value (change name value))
    (value : Json) : Fieldwise fields value (renameFields change value) := by
  cases value with
  | obj members =>
      refine .objects ?_
      intro name
      rw [lookup_map_values]
      cases members.lookup name with
      | none => exact .none
      | some value => exact .some (each name value)
  | _ => exact .others (fun _ => nofun)

end Decoding

namespace IdRenaming

variable (ρ : IdRenaming)

/-- The payload of a reference to a query under the new ids. -/
def referencePayload : Json → Json :=
  renameFields fun name => if name = "id" then renameId (ρ.object .query) else id

/-- The payload of a visualization under the new ids. -/
def visualizationPayload : Json → Json :=
  renameFields fun name =>
    if name = "id" then renameId ρ.visualization
    else if name = "query" then ρ.referencePayload
    else id

/-- The payload of a widget under the new ids.  Its own id stays, as a text. -/
def widgetPayload : Json → Json :=
  renameFields fun name =>
    if name = "id" then renameId id
    else if name = "visualization_id" then renameId ρ.visualization
    else if name = "visualization" then ρ.visualizationPayload
    else id

theorem fieldwise_referencePayload (value : Json) :
    Fieldwise ρ.referenceField value (ρ.referencePayload value) := by
  refine fieldwise_renameFields ?_ value
  intro name value
  unfold referenceField
  split
  · rw [if_pos rfl]
    refine idField_renameId ?_ value
    exact fun _ => rfl
  · next others =>
      rw [if_neg others]
      rfl

theorem fieldwise_visualizationPayload (value : Json) :
    Fieldwise ρ.visualizationField value (ρ.visualizationPayload value) := by
  refine fieldwise_renameFields ?_ value
  intro name value
  unfold visualizationField
  split
  · rw [if_pos rfl]
    refine idField_renameId ?_ value
    exact fun _ => rfl
  · rw [if_neg (by decide), if_pos rfl]
    exact ρ.fieldwise_referencePayload value
  · next noId noQuery =>
      rw [if_neg noId, if_neg noQuery]
      rfl

theorem fieldwise_widgetPayload (value : Json) :
    Fieldwise ρ.widgetField value (ρ.widgetPayload value) := by
  refine fieldwise_renameFields ?_ value
  intro name value
  unfold widgetField
  split
  · rw [if_pos rfl]
    refine idField_renameId ?_ value
    exact fun _ => trivial
  · rw [if_neg (by decide), if_pos rfl]
    refine idField_renameId ?_ value
    exact fun _ => rfl
  · rw [if_neg (by decide), if_neg (by decide), if_pos rfl]
    exact ρ.fieldwise_visualizationPayload value
  · next noId noLink noVisualization =>
      rw [if_neg noId, if_neg noLink, if_neg noVisualization]
      rfl

/-! ## Renaming services -/

/-- A dashboard under the new ids. -/
def dashboard (given : Dashboard) : Dashboard :=
  { given with
    id := ρ.object .dashboard given.id
    widgets := given.widgets.map ρ.widgetPayload }

/-- A query under the new ids. -/
def query (given : Query) : Query :=
  { given with
    id := ρ.object .query given.id
    visualizations := given.visualizations.map ρ.visualizationPayload }

theorem dashboards_dashboard (given : Dashboard) : ρ.Dashboards given (ρ.dashboard given) where
  id := rfl
  name := rfl
  tags := rfl
  widgets := forall₂_map ρ.fieldwise_widgetPayload given.widgets

theorem queries_query (given : Query) : ρ.Queries given (ρ.query given) where
  id := rfl
  dataSourceId := rfl
  name := rfl
  description := rfl
  text := rfl
  schedule := rfl
  options := rfl
  tags := rfl
  visualizations := forall₂_map ρ.fieldwise_visualizationPayload given.visualizations

/-- A service under the new ids. -/
noncomputable def fetcher (given : Fetcher) : Fetcher where
  dashboard id :=
    let fetched := given.dashboard (Function.invFun (ρ.object .dashboard) id)
    ⟨fetched.events, fetched.result.map ρ.dashboard⟩
  query id :=
    let fetched := given.query (Function.invFun (ρ.object .query) id)
    ⟨fetched.events, fetched.result.map ρ.query⟩

/-- **Every service can be renamed.** -/
theorem fetchers_fetcher (given : Fetcher) : ρ.Fetchers given (ρ.fetcher given) := by
  have old (kind : RemoteKind) (id : String) :
      Function.invFun (ρ.object kind) (ρ.object kind id) = id :=
    Function.leftInverse_invFun (ρ.object_injective kind) id
  constructor
  · intro id
    show Agree ρ.Dashboards (given.dashboard id).result ((given.dashboard
      (Function.invFun (ρ.object .dashboard) (ρ.object .dashboard id))).result.map ρ.dashboard)
    rw [old]
    exact .map_right ρ.dashboards_dashboard _
  · intro id
    show Agree ρ.Queries (given.query id).result ((given.query
      (Function.invFun (ρ.object .query) (ρ.object .query id))).result.map ρ.query)
    rw [old]
    exact .map_right ρ.queries_query _

/-- A service that holds the renamed objects is a renamed service. -/
theorem fetchers_servingFetcher (dashboards : List Dashboard) (queries : List Query) :
    ρ.Fetchers (servingFetcher dashboards queries)
      (servingFetcher (dashboards.map ρ.dashboard) (queries.map ρ.query)) := by
  constructor
  · intro id
    have found : Option.Rel ρ.Dashboards (dashboards.find? fun given => given.id == id)
        ((dashboards.map ρ.dashboard).find? fun given => given.id == ρ.object .dashboard id) :=
      find?_rel (forall₂_map ρ.dashboards_dashboard dashboards)
        fun alike => ObjectIds.beq_eq alike.id rfl
    simp only [servingFetcher]
    generalize (dashboards.find? fun given => given.id == id) = given,
      ((dashboards.map ρ.dashboard).find? fun given => given.id == ρ.object .dashboard id) = given'
      at found
    cases found with
    | none => exact .error _ _
    | some alike => exact .ok alike
  · intro id
    have found : Option.Rel ρ.Queries (queries.find? fun given => given.id == id)
        ((queries.map ρ.query).find? fun given => given.id == ρ.object .query id) :=
      find?_rel (forall₂_map ρ.queries_query queries)
        fun alike => ObjectIds.beq_eq alike.id rfl
    simp only [servingFetcher]
    generalize (queries.find? fun given => given.id == id) = given,
      ((queries.map ρ.query).find? fun given => given.id == ρ.object .query id) = given' at found
    cases found with
    | none => exact .error _ _
    | some alike => exact .ok alike

end IdRenaming

end DashboardExport
