import DashboardExport.Inventory.Loading
import DashboardExport.Proofs.Fallible
import DashboardExport.Proofs.Spelling.Payloads

/-!
# Loads do not see how ids are written

A session is viewed as another one when it goes from every view of a state to the view of
where the first one goes, tells the same events, and ends with the view of the result or with
the same failure (`Session.Views`).  Sessions that are put together are viewed part by part
(`Session.Views.bind`).

Loading from a service whose payloads have texts for ids is loading from the service, viewed
so that the payloads kept in the inventory have them as well (`loadAll_views`).  Ids are
compared and asked for only after they are decoded, and then they are texts in both.
-/

set_option autoImplicit false

namespace DashboardExport

open Decoding Service

/-! ## Views of sessions -/

namespace Session

/-- The second session is the first one, with another view of its states and its result. -/
def Views {σ τ α β : Type} (states : σ → τ) (values : α → β) (first : Session σ α)
    (second : Session τ β) : Prop :=
  ∀ s, second (states s) =
    ⟨states (first s).state, (first s).events, (first s).result.map values⟩

namespace Views

variable {σ τ α β γ κ : Type} {states : σ → τ} {values : α → β}

theorem done (value : α) : Views states values (Session.done value) (Session.done (values value)) :=
  fun _ => rfl

theorem tell (event : Event) : Views states id (Session.tell event) (Session.tell event) :=
  fun _ => rfl

theorem state : Views states states Session.state Session.state := fun _ => rfl

theorem change {f : σ → σ} {g : τ → τ} (step : ∀ s, g (states s) = states (f s)) :
    Views states id (Session.change f) (Session.change g) := by
  intro s
  rw [Session.change, Session.change, step]
  rfl

theorem ofExcept {first : Except Failure α} {second : Except Failure β}
    (view : second = first.map values) :
    Views states values (Session.ofExcept first) (Session.ofExcept second) := by
  intro s
  rw [view]
  rfl

theorem ofRefusal {first : Except Refusal α} {second : Except Refusal β}
    (view : second = first.map values) :
    Views states values (Session.ofRefusal first) (Session.ofRefusal second) := by
  refine ofExcept ?_
  rw [view]
  cases first <;> rfl

/-- **Sessions in two steps are viewed step by step.** -/
theorem bind {first : Session σ α} {second : Session τ β} {next : α → Session σ γ}
    {next' : β → Session τ κ} {values' : γ → κ} (view : Views states values first second)
    (step : ∀ value, Views states values' (next value) (next' (values value))) :
    Views states values' (first >>= next) (second >>= next') := by
  intro s
  have started := view s
  rcases ended : first s with ⟨middle, events, failure | value⟩
  · rw [ended] at started
    rw [bind_of_error started, bind_of_error ended]
    rfl
  · rw [ended] at started
    rw [bind_of_ok started, bind_of_ok ended, step value middle]

/-- A session within another one may work on a view of the state. -/
theorem within {first : Session τ α} {second : Session κ β} {states : τ → κ}
    (view : Views states values first second) (start : τ) :
    Views id (Prod.map states values) (Session.within start first : Session σ (τ × α))
      (Session.within (states start) second) := by
  intro s
  rw [Session.within, Session.within, view start]
  rcases first start with ⟨final, events, failure | value⟩
  · rfl
  · rfl

theorem refl (session : Session σ α) : Views id id session session := by
  intro s
  rcases ended : session s with ⟨last, events, failure | value⟩
  · exact ended
  · exact ended

/-- Sessions that are viewed as they are are the same. -/
theorem eq {first second : Session σ α} (view : Views id id first second) : second = first :=
  funext fun s => (view s).trans (refl first s).symm

end Views

end Session

/-! ## Views of inventories -/

/-- An entry with another object. -/
def Entry.mapObject {α : Type} (change : α → α) (entry : Entry α) : Entry α :=
  { entry with object := change entry.object }

/-- An inventory in which the payloads that are kept have texts for ids. -/
def Inventory.withTexts (inventory : Inventory) : Inventory where
  dashboards := inventory.dashboards.map (Entry.mapObject Dashboard.withTexts)
  widgets := inventory.widgets.map (Entry.mapObject Widget.withTexts)
  queries := inventory.queries.map (Entry.mapObject Query.withTexts)
  visualizations := inventory.visualizations.map (Entry.mapObject Visualization.withTexts)

/-- What is fetched, with texts for ids in it. -/
def Service.Fetched.change {α : Type} (change : α → α) (fetched : Fetched α) : Fetched α :=
  { fetched with result := fetched.result.map change }

/-- A service that answers with texts for ids in its payloads. -/
def Service.Fetcher.withTexts (fetcher : Fetcher) : Fetcher where
  dashboard id := (fetcher.dashboard id).change Dashboard.withTexts
  query id := (fetcher.query id).change Query.withTexts

namespace Inventory

variable (inventory : Inventory)

theorem hasDashboard_withTexts (id : String) :
    inventory.withTexts.hasDashboard id = inventory.hasDashboard id := by
  rw [hasDashboard, withTexts, List.any_map]
  rfl

theorem hasQuery_withTexts (id : String) :
    inventory.withTexts.hasQuery id = inventory.hasQuery id := by
  rw [hasQuery, withTexts, List.any_map]
  rfl

theorem dashboardEntry_withTexts (dashboard : Dashboard) :
    inventory.withTexts.dashboardEntry dashboard.withTexts =
      (inventory.dashboardEntry dashboard).mapObject Dashboard.withTexts := by
  rw [dashboardEntry, withTexts, List.map_map]
  rfl

theorem queryEntry_withTexts (query : Query) :
    inventory.withTexts.queryEntry query.withTexts =
      (inventory.queryEntry query).mapObject Query.withTexts := by
  rw [queryEntry, withTexts, List.map_map]
  rfl

theorem addDashboard_withTexts (entry : Entry Dashboard) (widgets : List (Entry Widget)) :
    inventory.withTexts.addDashboard (entry.mapObject Dashboard.withTexts)
        (widgets.map (Entry.mapObject Widget.withTexts)) =
      (inventory.addDashboard entry widgets).withTexts := by
  simp [addDashboard, withTexts]

theorem addQuery_withTexts (entry : Entry Query) (visualizations : List (Entry Visualization)) :
    inventory.withTexts.addQuery (entry.mapObject Query.withTexts)
        (visualizations.map (Entry.mapObject Visualization.withTexts)) =
      (inventory.addQuery entry visualizations).withTexts := by
  simp [addQuery, withTexts]

end Inventory

/-! ## Parts that are decoded late -/

theorem present?_map_renameFields (change : String → Json → Json) (payload : Option Json) :
    present? (payload.map (renameFields change)) =
      (present? payload).map (renameFields change) := by
  rcases payload with _ | value
  · rfl
  · cases value <;> rfl

theorem Widget.present?_withTexts (widget : Widget) :
    present? widget.withTexts.visualization =
      (present? widget.visualization).map visualizationText :=
  present?_map_renameFields visualizationFields widget.visualization

theorem Visualization.present?_withTexts (visualization : Visualization) :
    present? visualization.withTexts.query = (present? visualization.query).map referenceText :=
  present?_map_renameFields referenceFields visualization.query

theorem decodeVisualization_visualizationText (payload : Json) :
    decodeVisualization (visualizationText payload) =
      (decodeVisualization payload).map Visualization.withTexts := by
  rw [decodeVisualization, Visualization.decode_visualizationText, Outcome.ofOutcome_map,
    ← decodeVisualization]

theorem widgetEntry_withTexts (dashboard : Entry Dashboard) (position : Nat) (payload : Json) :
    widgetEntry (dashboard.mapObject Dashboard.withTexts) position (widgetText payload) =
      (widgetEntry dashboard position payload).map (Entry.mapObject Widget.withTexts) := by
  rw [widgetEntry, widgetEntry, Widget.decode_widgetText, Outcome.ofOutcome_map]
  cases Refusal.ofOutcome (.part "Widget") (Widget.decode payload) with
  | error refusal => rfl
  | ok widget =>
      simp only [Except.map, bind, Except.bind, Widget.present?_withTexts]
      cases present? widget.visualization with
      | none => rfl
      | some shown =>
          simp only [Option.map_some, decodeVisualization_visualizationText]
          cases decodeVisualization shown with
          | error refusal => rfl
          | ok visualization => rfl

theorem widgetEntriesFrom_withTexts (dashboard : Entry Dashboard) (position : Nat)
    (payloads : List Json) :
    widgetEntriesFrom (dashboard.mapObject Dashboard.withTexts) position (payloads.map widgetText) =
      (widgetEntriesFrom dashboard position payloads).map
        (List.map (Entry.mapObject Widget.withTexts)) := by
  induction payloads generalizing position with
  | nil => rfl
  | cons payload rest ih =>
      rw [List.map_cons, widgetEntriesFrom, widgetEntriesFrom, widgetEntry_withTexts, ih]
      cases widgetEntry dashboard position payload with
      | error refusal => rfl
      | ok entry =>
          cases widgetEntriesFrom dashboard (position + 1) rest with
          | error refusal => rfl
          | ok entries => rfl

/-- **The widgets of a dashboard are entered in the same way.** -/
theorem widgetEntries_withTexts (dashboard : Entry Dashboard) :
    widgetEntries (dashboard.mapObject Dashboard.withTexts) =
      (widgetEntries dashboard).map (List.map (Entry.mapObject Widget.withTexts)) :=
  widgetEntriesFrom_withTexts dashboard 0 dashboard.object.widgets

theorem ownVisualizations_withTexts (query : Query) :
    ownVisualizations query.withTexts =
      (ownVisualizations query).map (List.map Visualization.withTexts) := by
  rw [ownVisualizations, ownVisualizations, ← mapM_map, Query.withTexts, List.mapM_map]
  refine congrArg (List.mapM · query.visualizations) (funext fun payload => ?_)
  rw [Function.comp_apply, decodeVisualization_visualizationText]
  cases decodeVisualization payload with
  | error refusal => rfl
  | ok visualization => rfl

/-- **The visualizations of a query are entered in the same way.** -/
theorem visualizationEntries_withTexts (query : Entry Query) :
    visualizationEntries (query.mapObject Query.withTexts) =
      (visualizationEntries query).map (List.map (Entry.mapObject Visualization.withTexts)) := by
  rw [visualizationEntries, visualizationEntries, Entry.mapObject, ownVisualizations_withTexts]
  cases ownVisualizations query.object with
  | error refusal => rfl
  | ok visualizations =>
      have types : (visualizations.map Visualization.withTexts).map Visualization.lowerType =
          visualizations.map Visualization.lowerType := List.map_map
      simp only [Except.map, bind, Except.bind, pure, Except.pure, types, List.map_zipWith,
        List.zipWith_map_left]
      rfl

/-- A widget shows the same query. -/
theorem Widget.shownQuery?_withTexts (widget : Widget) :
    widget.withTexts.shownQuery? = widget.shownQuery? := by
  rw [shownQuery?, shownQuery?, present?_withTexts]
  -- The id of the query stands two payloads deep; each is decoded only when it is reached.
  cases present? widget.visualization with
  | none => rfl
  | some shown =>
      simp only [Option.map_some, decodeVisualization_visualizationText]
      cases decodeVisualization shown with
      | error refusal => rfl
      | ok visualization =>
          simp only [Except.map, bind, Except.bind, Visualization.present?_withTexts]
          cases present? visualization.query with
          | none => rfl
          | some reference => simp only [Option.map_some, QueryRef.decode_referenceText]

/-! ## Loads -/

namespace Inventory

variable (fetcher : Fetcher)

theorem ofFetched_views {σ τ α : Type} {states : σ → τ} (change : α → α) (fetched : Fetched α) :
    Session.Views states change (Session.ofFetched fetched)
      (Session.ofFetched (fetched.change change)) := fun _ => rfl

theorem admitQuery_views (query : Query) :
    Session.Views withTexts id (admitQuery query) (admitQuery query.withTexts) := by
  refine Session.Views.state.bind ?_
  intro inventory
  rw [queryEntry_withTexts]
  refine (Session.Views.tell _).bind ?_
  intro _
  refine (Session.Views.ofRefusal (visualizationEntries_withTexts _)).bind ?_
  intro visualizations
  refine Session.Views.change ?_
  exact fun before => before.addQuery_withTexts _ visualizations

/-- **A query is loaded in the same way**, whichever way ids are written. -/
theorem loadQuery_views (id : String) :
    Session.Views withTexts (fun _ => ()) (loadQuery fetcher id)
      (loadQuery fetcher.withTexts id) := by
  refine Session.Views.state.bind ?_
  intro inventory
  rw [hasQuery_withTexts]
  by_cases known : inventory.hasQuery id = true
  · rw [if_pos known, if_pos known]
    exact .tell _
  · rw [if_neg known, if_neg known]
    exact (ofFetched_views Query.withTexts _).bind admitQuery_views

theorem loadShown_views (widget : Widget) :
    Session.Views withTexts (fun _ => ()) (loadShown fetcher widget)
      (loadShown fetcher.withTexts widget.withTexts) := by
  have shows : Session.Views withTexts (fun shown => shown) (Session.ofRefusal widget.shownQuery?)
      (Session.ofRefusal widget.withTexts.shownQuery?) := by
    refine .ofRefusal ?_
    rw [Widget.shownQuery?_withTexts]
    cases widget.shownQuery? <;> rfl
  refine shows.bind ?_
  intro shown
  cases shown with
  | none => exact .done ()
  | some id => exact loadQuery_views fetcher id

theorem loadAllShown_views (widgets : List (Entry Widget)) :
    Session.Views withTexts (fun _ => ()) (loadAllShown fetcher widgets)
      (loadAllShown fetcher.withTexts (widgets.map (Entry.mapObject Widget.withTexts))) := by
  induction widgets with
  | nil => exact .done ()
  | cons entry rest ih => exact (loadShown_views fetcher entry.object).bind fun _ => ih

theorem admitDashboard_views (dashboard : Dashboard) :
    Session.Views withTexts (List.map (Entry.mapObject Widget.withTexts)) (admitDashboard dashboard)
      (admitDashboard dashboard.withTexts) := by
  refine Session.Views.state.bind ?_
  intro inventory
  rw [dashboardEntry_withTexts]
  refine (Session.Views.tell _).bind ?_
  intro _
  refine (Session.Views.ofRefusal (widgetEntries_withTexts _)).bind ?_
  intro widgets
  have adds (before : Inventory) :=
    before.addDashboard_withTexts (inventory.dashboardEntry dashboard) widgets
  refine (Session.Views.change adds).bind ?_
  exact fun _ => .done widgets

/-- **A dashboard is loaded in the same way**, whichever way ids are written. -/
theorem loadDashboard_views (id : String) :
    Session.Views withTexts (fun _ => ()) (loadDashboard fetcher id)
      (loadDashboard fetcher.withTexts id) := by
  refine Session.Views.state.bind ?_
  intro inventory
  rw [hasDashboard_withTexts]
  by_cases known : inventory.hasDashboard id = true
  · rw [if_pos known, if_pos known]
    exact .tell _
  · rw [if_neg known, if_neg known]
    refine (ofFetched_views Dashboard.withTexts _).bind ?_
    intro dashboard
    exact (admitDashboard_views dashboard).bind (loadAllShown_views fetcher)

theorem load_views (kind : RemoteKind) (id : String) :
    Session.Views withTexts (fun _ => ()) (load fetcher kind id)
      (load fetcher.withTexts kind id) := by
  cases kind with
  | dashboard => exact loadDashboard_views fetcher id
  | query => exact loadQuery_views fetcher id

/-- **Everything is loaded in the same way**: the same requests are made, and the inventories are
the same up to the ids in payloads that are kept for later. -/
theorem loadAll_views (kind : RemoteKind) (ids : List String) :
    Session.Views withTexts (fun _ => ()) (loadAll fetcher kind ids)
      (loadAll fetcher.withTexts kind ids) := by
  have each : Session.Views withTexts (fun _ => ()) (loadEach fetcher kind ids)
      (loadEach fetcher.withTexts kind ids) := by
    induction ids with
    | nil => exact .done ()
    | cons id rest ih => exact (load_views fetcher kind id).bind fun _ => ih
  refine each.bind ?_
  intro _
  refine Session.Views.state.bind ?_
  intro inventory
  simp only [withTexts, List.length_map]
  exact .tell _

/-- The loads of an export, which begin with nothing. -/
theorem loadAll_withTexts (kind : RemoteKind) (ids : List String) :
    loadAll fetcher.withTexts kind ids empty =
      ⟨(loadAll fetcher kind ids empty).state.withTexts, (loadAll fetcher kind ids empty).events,
        (loadAll fetcher kind ids empty).result⟩ := by
  refine (loadAll_views fetcher kind ids empty).trans ?_
  cases (loadAll fetcher kind ids empty).result <;> rfl

end Inventory

end DashboardExport
