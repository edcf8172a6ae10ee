import DashboardExport.Inventory.Loading
import DashboardExport.Proofs.Renaming.Payloads

/-!
# Loads under other ids

A renamed service answers the new id of an object with the renamed object, and fails where
the service fails (`IdRenaming.Fetchers`).  Loading from both keeps two inventories in
step: the same resource names in the same order, over objects that are the same up to
their ids (`IdRenaming.Inventories`).

Ids are only ever compared with ids of the same sort, and different ones stay different,
so what is loaded already is the same on both sides (`Inventories.hasQuery_eq`), and the
loads go the same way (`loadAll_alike`).
-/

set_option autoImplicit false

namespace DashboardExport

open Decoding Service

namespace IdRenaming

/-! ## Renamed objects -/

/-- Entries with one resource name whose ids and objects are related. -/
structure Entries {α : Type} (ids : String → String → Prop) (objects : α → α → Prop)
    (entry entry' : Entry α) : Prop where
  remoteId : ids entry.remoteId entry'.remoteId
  resourceName : entry.resourceName = entry'.resourceName
  object : objects entry.object entry'.object

structure Dashboards (ρ : IdRenaming) (dashboard dashboard' : Dashboard) : Prop where
  id : ρ.ObjectIds .dashboard dashboard.id dashboard'.id
  name : dashboard.name = dashboard'.name
  tags : dashboard.tags = dashboard'.tags
  widgets : List.Forall₂ (Fieldwise ρ.widgetField) dashboard.widgets dashboard'.widgets

/-- Queries under other ids.  Their parameters are the same: the query that one takes its values
from is named by data of the parameter. -/
structure Queries (ρ : IdRenaming) (query query' : Query) : Prop where
  id : ρ.ObjectIds .query query.id query'.id
  dataSourceId : query.dataSourceId = query'.dataSourceId
  name : query.name = query'.name
  description : query.description = query'.description
  text : query.text = query'.text
  schedule : query.schedule = query'.schedule
  options : query.options = query'.options
  tags : query.tags = query'.tags
  visualizations :
    List.Forall₂ (Fieldwise ρ.visualizationField) query.visualizations query'.visualizations

/-- Widgets that are marked with their dashboards. -/
structure OwnWidgets (ρ : IdRenaming) (widget widget' : Widget) : Prop
    extends ρ.Widgets widget widget' where
  dashboardId : ρ.ObjectIds .dashboard widget.dashboardId widget'.dashboardId

/-- Visualizations that are marked with their queries. -/
structure OwnVisualizations (ρ : IdRenaming) (shown shown' : Visualization) : Prop
    extends ρ.Visualizations shown shown' where
  queryId : ρ.ObjectIds .query shown.queryId shown'.queryId

abbrev DashboardEntries (ρ : IdRenaming) : Entry Dashboard → Entry Dashboard → Prop :=
  Entries (ρ.ObjectIds .dashboard) ρ.Dashboards

abbrev WidgetEntries (ρ : IdRenaming) : Entry Widget → Entry Widget → Prop :=
  Entries (fun _ _ => True) ρ.OwnWidgets

abbrev QueryEntries (ρ : IdRenaming) : Entry Query → Entry Query → Prop :=
  Entries (ρ.ObjectIds .query) ρ.Queries

abbrev VisualizationEntries (ρ : IdRenaming) : Entry Visualization → Entry Visualization → Prop :=
  Entries ρ.VisualizationIds ρ.OwnVisualizations

/-- Inventories that are the same up to the ids. -/
structure Inventories (ρ : IdRenaming) (inventory inventory' : Inventory) : Prop where
  dashboards : List.Forall₂ ρ.DashboardEntries inventory.dashboards inventory'.dashboards
  widgets : List.Forall₂ ρ.WidgetEntries inventory.widgets inventory'.widgets
  queries : List.Forall₂ ρ.QueryEntries inventory.queries inventory'.queries
  visualizations : List.Forall₂ ρ.VisualizationEntries inventory.visualizations
    inventory'.visualizations

/-- Services of which the second one answers the new ids with the renamed objects. -/
structure Fetchers (ρ : IdRenaming) (fetcher fetcher' : Fetcher) : Prop where
  dashboard : ∀ id, Agree ρ.Dashboards (fetcher.dashboard id).result
    (fetcher'.dashboard (ρ.object .dashboard id)).result
  query : ∀ id, Agree ρ.Queries (fetcher.query id).result
    (fetcher'.query (ρ.object .query id)).result

/-! ## Comparing ids -/

section Comparing

variable {ρ : IdRenaming}

/-- New ids are equal exactly when the old ones are. -/
theorem beq_eq_of_injective {change : String → String} (injective : Function.Injective change)
    {id id' other other' : String} (first : id' = change id) (second : other' = change other) :
    (id == other) = (id' == other') := by
  rw [first, second, Bool.eq_iff_iff, beq_iff_eq, beq_iff_eq]
  exact injective.eq_iff.symm

theorem ObjectIds.beq_eq {kind : RemoteKind} {id id' other other' : String}
    (first : ρ.ObjectIds kind id id') (second : ρ.ObjectIds kind other other') :
    (id == other) = (id' == other') :=
  beq_eq_of_injective (ρ.object_injective kind) first second

theorem VisualizationIds.beq_eq {id id' other other' : String}
    (first : ρ.VisualizationIds id id') (second : ρ.VisualizationIds other other') :
    (id == other) = (id' == other') :=
  beq_eq_of_injective ρ.visualization_injective first second

end Comparing

/-! ## New entries -/

section New

variable {ρ : IdRenaming} {inventory inventory' : Inventory}

theorem Inventories.hasDashboard_eq (same : ρ.Inventories inventory inventory') (id : String) :
    inventory.hasDashboard id = inventory'.hasDashboard (ρ.object .dashboard id) :=
  any_eq_of_forall₂ same.dashboards fun entry => ObjectIds.beq_eq entry.remoteId rfl

theorem Inventories.hasQuery_eq (same : ρ.Inventories inventory inventory') (id : String) :
    inventory.hasQuery id = inventory'.hasQuery (ρ.object .query id) :=
  any_eq_of_forall₂ same.queries fun entry => ObjectIds.beq_eq entry.remoteId rfl

/-- **Renamed objects get the names that they get without the renaming.** -/
theorem Inventories.dashboardEntry (same : ρ.Inventories inventory inventory')
    {dashboard dashboard' : Dashboard} (alike : ρ.Dashboards dashboard dashboard') :
    ρ.DashboardEntries (inventory.dashboardEntry dashboard)
      (inventory'.dashboardEntry dashboard') where
  remoteId := alike.id
  resourceName := by
    have names := map_eq_of_forall₂ same.dashboards Entries.resourceName
    rw [Inventory.dashboardEntry, Inventory.dashboardEntry, names, alike.name]
  object := alike

theorem Inventories.queryEntry (same : ρ.Inventories inventory inventory')
    {query query' : Query} (alike : ρ.Queries query query') :
    ρ.QueryEntries (inventory.queryEntry query)
      (inventory'.queryEntry query') where
  remoteId := alike.id
  resourceName := by
    have names := map_eq_of_forall₂ same.queries Entries.resourceName
    rw [Inventory.queryEntry, Inventory.queryEntry, names, alike.name]
  object := alike

end New

/-! ## Parts -/

section Parts

variable {ρ : IdRenaming}

theorem present?_rel {fields : String → Json → Json → Prop} {payload payload' : Option Json}
    (same : Option.Rel (Fieldwise fields) payload payload') :
    Option.Rel (Fieldwise fields) (present? payload) (present? payload') := by
  cases same with
  | none => exact .none
  | @some value value' alike =>
      by_cases isNull : value = .null
      · rw [alike.null_iff.1 isNull, isNull]
        exact .none
      · have isNull' : value' ≠ .null := fun same => isNull (alike.null_iff.2 same)
        rw [present?, present?]
        · exact .some alike
        · simpa using isNull'
        · simpa using isNull

theorem decodeVisualization_agree {payload payload' : Json}
    (same : Fieldwise ρ.visualizationField payload payload') :
    Agree ρ.Visualizations (decodeVisualization payload) (decodeVisualization payload') :=
  (decode_visualization_agree same).ofOutcome _ _

theorem widgetEntry_agree {dashboard dashboard' : Entry Dashboard}
    (owner : ρ.DashboardEntries dashboard dashboard') (position : Nat)
    {payload payload' : Json} (same : Fieldwise ρ.widgetField payload payload') :
    Agree ρ.WidgetEntries (widgetEntry dashboard position payload)
      (widgetEntry dashboard' position payload') := by
  refine ((decode_widget_agree same).ofOutcome _ _).bind ?_
  intro widget widget' decoded
  have made {link link' : Option String} (linked : Option.Rel ρ.VisualizationIds link link') :
      ρ.WidgetEntries
        { remoteId := widget.id
          resourceName := Naming.numbered dashboard.resourceName position
          object := { widget with dashboardId := dashboard.remoteId, visualizationId := link } }
        { remoteId := widget'.id
          resourceName := Naming.numbered dashboard'.resourceName position
          object := { widget' with dashboardId := dashboard'.remoteId, visualizationId := link' } } :=
    { remoteId := trivial
      resourceName := congrArg (Naming.numbered · position) owner.resourceName
      object := ⟨⟨decoded.text, decoded.visualization, linked, decoded.options⟩, owner.remoteId⟩ }
  have shows := present?_rel decoded.visualization
  generalize present? widget.visualization = shown, present? widget'.visualization = shown' at shows
  cases shows with
  | none => exact .ok (made decoded.visualizationId)
  | some alike =>
      exact (decodeVisualization_agree alike).bind fun visualization =>
        .ok (made (.some visualization.id))

theorem widgetEntriesFrom_agree {dashboard dashboard' : Entry Dashboard}
    (owner : ρ.DashboardEntries dashboard dashboard')
    {payloads payloads' : List Json}
    (same : List.Forall₂ (Fieldwise ρ.widgetField) payloads payloads') (position : Nat) :
    Agree (List.Forall₂ ρ.WidgetEntries)
      (widgetEntriesFrom dashboard position payloads)
      (widgetEntriesFrom dashboard' position payloads') := by
  induction same generalizing position with
  | nil => exact .ok .nil
  | cons first _ ih =>
      exact (widgetEntry_agree owner position first).bind fun here =>
        (ih (position + 1)).bind fun later => .ok (.cons here later)

/-- **The widgets of a renamed dashboard are the renamed widgets.** -/
theorem widgetEntries_agree {dashboard dashboard' : Entry Dashboard}
    (owner : ρ.DashboardEntries dashboard dashboard') :
    Agree (List.Forall₂ ρ.WidgetEntries) (widgetEntries dashboard)
      (widgetEntries dashboard') :=
  widgetEntriesFrom_agree owner owner.object.widgets 0

theorem ownVisualizations_agree {query query' : Query} (same : ρ.Queries query query') :
    Agree (List.Forall₂ ρ.OwnVisualizations) (ownVisualizations query)
      (ownVisualizations query') :=
  Agree.mapM same.visualizations fun alike =>
    (decodeVisualization_agree alike).bind fun decoded => .ok
      ⟨⟨decoded.id, decoded.type, decoded.name, decoded.description, decoded.options,
        decoded.query⟩, same.id⟩

theorem zipWith_entries {visualizations visualizations' : List Visualization}
    (same : List.Forall₂ ρ.OwnVisualizations visualizations visualizations') :
    ∀ names : List String,
      List.Forall₂ ρ.VisualizationEntries
        (visualizations.zipWith
          (fun visualization name => ⟨visualization.id, name, visualization⟩) names)
        (visualizations'.zipWith
          (fun visualization name => ⟨visualization.id, name, visualization⟩) names) := by
  induction same with
  | nil => exact fun _ => .nil
  | cons first _ ih =>
      intro names
      cases names with
      | nil => exact .nil
      | cons name names => exact .cons ⟨first.id, rfl, first⟩ (ih names)

/-- **The visualizations of a renamed query are the renamed visualizations.** -/
theorem visualizationEntries_agree {query query' : Entry Query}
    (owner : ρ.QueryEntries query query') :
    Agree (List.Forall₂ ρ.VisualizationEntries)
      (visualizationEntries query) (visualizationEntries query') := by
  refine (ownVisualizations_agree owner.object).bind fun {own own'} same => .ok ?_
  have types : own.map Visualization.lowerType = own'.map Visualization.lowerType :=
    map_eq_of_forall₂ same fun alike => congrArg Text.lower alike.type
  rw [types, owner.resourceName]
  exact zipWith_entries same _

/-- A renamed widget shows the renamed query. -/
theorem shownQuery?_agree {widget widget' : Widget} (same : ρ.Widgets widget widget') :
    Agree (Option.Rel (ρ.ObjectIds .query)) widget.shownQuery? widget'.shownQuery? := by
  rw [Widget.shownQuery?, Widget.shownQuery?]
  have shows := present?_rel same.visualization
  generalize present? widget.visualization = shown, present? widget'.visualization = shown' at shows
  cases shows with
  | none => exact .ok .none
  | some alike =>
      refine (decodeVisualization_agree alike).bind ?_
      intro shown shown' decoded
      have refers := present?_rel decoded.query
      generalize present? shown.query = reference, present? shown'.query = reference' at refers
      cases refers with
      | none => exact .ok .none
      | some alike =>
          exact ((decode_reference_agree alike).ofOutcome _ _).bind fun id => .ok (.some id)

end Parts

/-! ## Loads -/

section Loading

variable {ρ : IdRenaming} {fetcher fetcher' : Fetcher}

theorem ofFetched_alike {σ τ α β : Type} {states : σ → τ → Prop} {values : α → β → Prop}
    {fetched : Fetched α} {fetched' : Fetched β} (agree : Agree values fetched.result fetched'.result) :
    Session.Alike states values (Session.ofFetched fetched) (Session.ofFetched fetched') :=
  fun _ _ same => ⟨same, agree⟩

theorem admitQuery_alike {query query' : Query} (same : ρ.Queries query query') :
    Session.Alike ρ.Inventories (fun _ _ => True) (Inventory.admitQuery query)
      (Inventory.admitQuery query') := by
  refine Session.Alike.state.bind ?_
  intro inventory inventory' alike
  have entry := alike.queryEntry same
  refine (Session.Alike.tell _ _).bind ?_
  intro _ _ _
  refine (Session.Alike.ofRefusal (visualizationEntries_agree entry)).bind ?_
  intro visualizations visualizations' decoded
  refine Session.Alike.change ?_
  intro before before' alike
  exact
    { dashboards := alike.dashboards
      widgets := alike.widgets
      queries := List.rel_append alike.queries (.cons entry .nil)
      visualizations := List.rel_append alike.visualizations decoded }

/-- **Loads of a query and of the renamed query keep the inventories in step.** -/
theorem loadQuery_alike (services : ρ.Fetchers fetcher fetcher') {id id' : String}
    (same : ρ.ObjectIds .query id id') :
    Session.Alike ρ.Inventories (fun _ _ => True) (Inventory.loadQuery fetcher id)
      (Inventory.loadQuery fetcher' id') := by
  subst same
  refine Session.Alike.state.bind ?_
  intro inventory inventory' alike
  rw [← alike.hasQuery_eq id]
  by_cases known : inventory.hasQuery id = true
  · rw [if_pos known, if_pos known]
    exact .tell _ _
  · rw [if_neg known, if_neg known]
    exact (ofFetched_alike (services.query id)).bind admitQuery_alike

theorem loadShown_alike (services : ρ.Fetchers fetcher fetcher') {widget widget' : Widget}
    (same : ρ.Widgets widget widget') :
    Session.Alike ρ.Inventories (fun _ _ => True) (Inventory.loadShown fetcher widget)
      (Inventory.loadShown fetcher' widget') := by
  refine (Session.Alike.ofRefusal (shownQuery?_agree same)).bind ?_
  intro shown shown' shows
  cases shows with
  | none => exact .done trivial
  | some same => exact loadQuery_alike services same

theorem loadAllShown_alike (services : ρ.Fetchers fetcher fetcher')
    {widgets widgets' : List (Entry Widget)}
    (same : List.Forall₂ ρ.WidgetEntries widgets widgets') :
    Session.Alike ρ.Inventories (fun _ _ => True) (Inventory.loadAllShown fetcher widgets)
      (Inventory.loadAllShown fetcher' widgets') := by
  induction same with
  | nil => exact .done trivial
  | cons first _ ih => exact (loadShown_alike services first.object.toWidgets).bind fun _ => ih

theorem admitDashboard_alike {dashboard dashboard' : Dashboard}
    (same : ρ.Dashboards dashboard dashboard') :
    Session.Alike ρ.Inventories (List.Forall₂ ρ.WidgetEntries)
      (Inventory.admitDashboard dashboard) (Inventory.admitDashboard dashboard') := by
  refine Session.Alike.state.bind ?_
  intro inventory inventory' alike
  have entry := alike.dashboardEntry same
  refine (Session.Alike.tell _ _).bind ?_
  intro _ _ _
  refine (Session.Alike.ofRefusal (widgetEntries_agree entry)).bind ?_
  intro widgets widgets' decoded
  refine (Session.Alike.change ?_).bind fun _ => .done decoded
  intro before before' alike
  exact
    { dashboards := List.rel_append alike.dashboards (.cons entry .nil)
      widgets := List.rel_append alike.widgets decoded
      queries := alike.queries
      visualizations := alike.visualizations }

theorem loadDashboard_alike (services : ρ.Fetchers fetcher fetcher') (id : String) :
    Session.Alike ρ.Inventories (fun _ _ => True) (Inventory.loadDashboard fetcher id)
      (Inventory.loadDashboard fetcher' (ρ.object .dashboard id)) := by
  refine Session.Alike.state.bind ?_
  intro inventory inventory' alike
  rw [← alike.hasDashboard_eq id]
  by_cases known : inventory.hasDashboard id = true
  · rw [if_pos known, if_pos known]
    exact .tell _ _
  · rw [if_neg known, if_neg known]
    refine (ofFetched_alike (services.dashboard id)).bind ?_
    intro dashboard dashboard' same
    refine (admitDashboard_alike same).bind ?_
    intro widgets widgets' shown
    exact loadAllShown_alike services shown

theorem load_alike (services : ρ.Fetchers fetcher fetcher') (kind : RemoteKind) (id : String) :
    Session.Alike ρ.Inventories (fun _ _ => True) (Inventory.load fetcher kind id)
      (Inventory.load fetcher' kind (ρ.object kind id)) := by
  cases kind with
  | dashboard => exact loadDashboard_alike services id
  | query => exact loadQuery_alike services rfl

/-- **Loading renamed roots keeps the inventories in step.** -/
theorem loadAll_alike (services : ρ.Fetchers fetcher fetcher') (kind : RemoteKind)
    (ids : List String) :
    Session.Alike ρ.Inventories (fun _ _ => True) (Inventory.loadAll fetcher kind ids)
      (Inventory.loadAll fetcher' kind (ids.map (ρ.object kind))) := by
  have each : Session.Alike ρ.Inventories (fun _ _ => True) (Inventory.loadEach fetcher kind ids)
      (Inventory.loadEach fetcher' kind (ids.map (ρ.object kind))) := by
    induction ids with
    | nil => exact .done trivial
    | cons id rest ih => exact (load_alike services kind id).bind fun _ => ih
  exact each.bind fun _ => Session.Alike.state.bind fun _ => .tell _ _

end Loading

end IdRenaming

end DashboardExport
