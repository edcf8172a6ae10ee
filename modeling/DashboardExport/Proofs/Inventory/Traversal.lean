import DashboardExport.Proofs.Inventory.Visits

/-!
# Loading all roots

If a service answers an id only with an object of that id, loading all roots without a
failure comes to visiting them, with later repetitions left out (`loadAll_traversal`):
the objects join the inventory in the order in which they are first referred to, each
once and with all its parts, and nothing else is asked for.

The proof follows the visits made so far, repetitions included.  Each kind of load
takes `Visited` from what was visited before to that with its own visits added.
-/

set_option autoImplicit false

namespace DashboardExport

open Decoding Service

/-! ## What a load visits -/

/-- What a widget's entry shows is what its payload refers to. -/
theorem referredQuery?_of_widgetAt {dashboard : Entry Dashboard} {payload : Json × Nat}
    {entry : Entry Widget} (read : WidgetAt dashboard payload entry) {shown : Option String}
    (shows : entry.object.shownQuery? = .ok shown) : referredQuery? payload.1 = shown := by
  cases read with
  | @read payload position widget link decoded linked =>
      rw [Widget.shownQuery?] at shows
      simp only [referredQuery?, decoded, Outcome.value?, Option.bind_eq_bind, Option.bind_some]
      cases embedded : present? widget.visualization with
      | none =>
          rw [embedded] at shows
          cases shows
          rfl
      | some content =>
          rw [embedded] at shows
          obtain ⟨visualization, visualizationDecoded, shows⟩ := except_bind_eq_ok_iff.1 shows
          rw [decodeVisualization_eq_ok_iff] at visualizationDecoded
          rw [Option.bind_some, visualizationDecoded, Option.bind_some]
          cases referred : present? visualization.query with
          | none =>
              rw [referred] at shows
              cases shows
              rfl
          | some reference =>
              rw [referred] at shows
              obtain ⟨query, queryDecoded, shows⟩ := except_bind_eq_ok_iff.1 shows
              rw [Refusal.ofOutcome_eq_ok_iff] at queryDecoded
              cases shows
              rw [Option.bind_some, queryDecoded]
              rfl

namespace Visited

variable {fetcher : Fetcher} {visits : List (RemoteKind × String)} {inventory : Inventory}
  {events : List Event} {ending : Ending Inventory Unit}

/-- A query that is loaded is visited. -/
theorem queryLoad (echoes : fetcher.Echoes) (visited : Visited fetcher visits inventory events)
    {id : String} (load : Inventory.QueryLoad fetcher id inventory ending)
    (success : ending.result = .ok ()) :
    Visited fetcher (visits ++ [(.query, id)]) ending.state (events ++ ending.events) := by
  cases load with
  | known present =>
      refine visited.again (fun visit member => ?_) rfl
      rw [List.mem_singleton.1 member]
      exact (visited.hasQuery_iff id).1 present
  | unfetched _ _ => cases success
  | undecodable _ _ _ => cases success
  | added absent fetched decoded => exact visited.addQuery echoes absent fetched _

/-- The queries that widgets show are visited in the order of the widgets. -/
theorem shownLoads (echoes : fetcher.Echoes) {dashboard : Entry Dashboard}
    {widgets : List (Entry Widget)} (loads : Inventory.ShownLoads fetcher widgets inventory ending)
    {payloads : List (Json × Nat)} (read : List.Forall₂ (WidgetAt dashboard) payloads widgets)
    (success : ending.result = .ok ()) (visited : Visited fetcher visits inventory events) :
    Visited fetcher
      (visits ++ ((payloads.map Prod.fst).filterMap referredQuery?).map fun id => (.query, id))
      ending.state (events ++ ending.events) := by
  induction loads generalizing payloads visits events with
  | done inventory =>
      cases read
      exact visited.again (fun _ member => absurd member List.not_mem_nil) rfl
  | failed _ _ => cases success
  | @step entry inventory middle told rest ending load loads ih =>
      obtain _ | ⟨first, later⟩ := read
      rename_i payload payloads
      rw [List.map_cons, List.filterMap_cons, ← List.append_assoc events]
      cases load with
      | nothing shows =>
          rw [referredQuery?_of_widgetAt first shows]
          refine ih later success ?_
          rw [List.append_nil]
          exact visited
      | query shows load =>
          rw [referredQuery?_of_widgetAt first shows]
          have shown := visited.queryLoad echoes load rfl
          have done := ih later success shown
          rwa [List.append_assoc] at done

/-- A dashboard is asked for only as a root. -/
theorem root_of_dashboard_mem {kind : RemoteKind} {root id : String}
    (member : (RemoteKind.dashboard, id) ∈ fetcher.visits kind root) : id = root := by
  cases kind with
  | query => cases List.mem_singleton.1 member
  | dashboard =>
      rcases List.mem_cons.1 member with same | shown
      · cases same
        rfl
      · obtain ⟨_, _, same⟩ := List.mem_map.1 shown
        cases same

/-- A dashboard that is loaded is visited. -/
theorem dashboardLoad (echoes : fetcher.Echoes) {roots : List String}
    (visited : Visited fetcher (roots.flatMap (fetcher.visits .dashboard)) inventory events)
    {id : String} (load : Inventory.DashboardLoad fetcher id inventory ending)
    (success : ending.result = .ok ()) :
    Visited fetcher ((roots ++ [id]).flatMap (fetcher.visits .dashboard)) ending.state
      (events ++ ending.events) := by
  rw [List.flatMap_append, List.flatMap_singleton]
  cases load with
  | known present =>
      obtain ⟨root, known, member⟩ := List.mem_flatMap.1 ((visited.hasDashboard_iff id).1 present)
      rw [← root_of_dashboard_mem member] at known
      exact visited.again (fun visit member => List.mem_flatMap.2 ⟨id, known, member⟩) rfl
  | unfetched _ _ => cases success
  | undecodable _ _ _ => cases success
  | @admitted absent dashboard fetched widgets decoded ending loads =>
      have added := visited.addDashboard echoes absent fetched widgets
      have shown := shownLoads echoes loads (widgetAt_of_widgetEntries decoded) success added
      rw [List.zipIdx_map_fst, List.append_assoc, List.append_assoc, List.append_assoc] at shown
      rw [Fetcher.visits, Fetcher.shownBy, fetched]
      exact shown

/-- **A root that is loaded is visited.** -/
theorem load (echoes : fetcher.Echoes) {kind : RemoteKind} {roots : List String}
    (visited : Visited fetcher (roots.flatMap (fetcher.visits kind)) inventory events)
    (id : String) (success : (Inventory.load fetcher kind id inventory).result = .ok ()) :
    Visited fetcher ((roots ++ [id]).flatMap (fetcher.visits kind))
      (Inventory.load fetcher kind id inventory).state
      (events ++ (Inventory.load fetcher kind id inventory).events) := by
  cases kind with
  | dashboard =>
      exact visited.dashboardLoad echoes (Inventory.dashboardLoad fetcher id inventory) success
  | query =>
      rw [List.flatMap_append, List.flatMap_singleton]
      exact visited.queryLoad echoes (Inventory.queryLoad fetcher id inventory) success

/-- All roots that are loaded, one after the other, are visited. -/
theorem loadEach (echoes : fetcher.Echoes) {kind : RemoteKind} {roots : List String}
    (visited : Visited fetcher (roots.flatMap (fetcher.visits kind)) inventory events)
    (more : List String)
    (success : (Inventory.loadEach fetcher kind more inventory).result = .ok ()) :
    Visited fetcher ((roots ++ more).flatMap (fetcher.visits kind))
      (Inventory.loadEach fetcher kind more inventory).state
      (events ++ (Inventory.loadEach fetcher kind more inventory).events) := by
  induction more generalizing roots inventory events with
  | nil =>
      show Visited fetcher _ inventory (events ++ [])
      rw [List.append_nil, List.append_nil]
      exact visited
  | cons id rest ih =>
      rw [Inventory.loadEach] at success ⊢
      rcases ended : Inventory.load fetcher kind id inventory with ⟨middle, told, _ | _⟩
      · rw [Session.bind_of_error ended] at success
        cases success
      · rw [Session.bind_of_ok ended] at success ⊢
        have first := visited.load echoes id (by rw [ended])
        rw [ended] at first
        have all := ih first success
        rw [List.append_assoc, List.append_assoc] at all
        exact all

end Visited

/-! ## What a run leaves -/

/-- The roots that are asked for as dashboards. -/
def dashboardRoots : RemoteKind → List String → List String
  | .dashboard, roots => roots
  | .query, _ => []

/-- The queries that are referred to: by the dashboards in their order, or as roots. -/
def referredQueries (kind : RemoteKind) (roots : List String) (inventory : Inventory) :
    List String :=
  match kind with
  | .dashboard => inventory.dashboards.flatMap fun entry => entry.object.referredQueries
  | .query => roots

/-- The inventory that loading the roots leaves, and the events it tells. -/
structure Traversal (fetcher : Fetcher) (kind : RemoteKind) (roots : List String)
    (inventory : Inventory) (events : List Event) : Prop where
  /-- The dashboards are the roots without later repetitions. -/
  dashboardIds : inventory.dashboards.map Entry.remoteId = (dashboardRoots kind roots).eraseDups
  dashboards : ∀ entry ∈ inventory.dashboards,
    (fetcher.dashboard entry.remoteId).result = .ok entry.object
  /-- The widgets are those of the dashboards, in order. -/
  widgets : Collected
    (fun dashboard => List.Forall₂ (WidgetAt dashboard) dashboard.object.widgets.zipIdx)
    inventory.dashboards inventory.widgets
  /-- The queries are those that are referred to, without later repetitions. -/
  queryIds : inventory.queries.map Entry.remoteId =
    (referredQueries kind roots inventory).eraseDups
  queries : ∀ entry ∈ inventory.queries, (fetcher.query entry.remoteId).result = .ok entry.object
  /-- The visualizations are those of the queries, in order. -/
  visualizations : Collected
    (fun query => List.Forall₂ (VisualizationOf query) query.object.visualizations)
    inventory.queries inventory.visualizations
  /-- Each object is asked for once: a dashboard, then its queries, then the next root. -/
  asked : askedIn events =
    (roots.flatMap (fetcher.visits kind)).eraseDups.flatMap fun visit =>
      askedIn (fetcher.told visit)

/-! ## Roots without repetitions -/

theorem filterMap_dashboardId?_visits (fetcher : Fetcher) (kind : RemoteKind)
    (roots : List String) :
    (roots.flatMap (fetcher.visits kind)).filterMap dashboardId? = dashboardRoots kind roots := by
  rw [List.filterMap_flatMap]
  cases kind with
  | dashboard =>
      refine Eq.trans (congrArg (roots.flatMap ·) (funext fun root => ?_))
        (List.flatMap_singleton' roots)
      exact congrArg (root :: ·) (filterMap_dashboardId?_queries (fetcher.shownBy root))
  | query => exact List.flatMap_eq_nil_iff.2 fun _ _ => rfl

theorem filterMap_queryId?_visits_dashboard (fetcher : Fetcher) (roots : List String) :
    (roots.flatMap (fetcher.visits .dashboard)).filterMap queryId? =
      roots.flatMap fetcher.shownBy := by
  rw [List.filterMap_flatMap]
  exact congrArg (roots.flatMap ·)
    (funext fun root => filterMap_queryId?_queries (fetcher.shownBy root))

theorem filterMap_queryId?_visits_query (fetcher : Fetcher) (roots : List String) :
    (roots.flatMap (fetcher.visits .query)).filterMap queryId? = roots := by
  rw [List.filterMap_flatMap]
  exact List.flatMap_singleton' roots

/-- The queries that dashboards in the inventory refer to, read off the visits. -/
theorem Visited.flatMap_referredQueries {fetcher : Fetcher}
    {visits : List (RemoteKind × String)} {inventory : Inventory} {events : List Event}
    (visited : Visited fetcher visits inventory events) :
    inventory.dashboards.flatMap (fun entry => entry.object.referredQueries) =
      (visits.filterMap dashboardId?).eraseDups.flatMap fetcher.shownBy := by
  rw [← visited.dashboardIds, List.flatMap_map]
  refine List.flatMap_congr ?_
  intro entry member
  rw [Fetcher.shownBy, visited.dashboards entry member]

/-- **Loading all roots comes to visiting them without later repetitions.** -/
theorem loadAll_traversal {fetcher : Fetcher} (echoes : fetcher.Echoes) (kind : RemoteKind)
    (roots : List String)
    (success : (Inventory.loadAll fetcher kind roots Inventory.empty).result = .ok ()) :
    Traversal fetcher kind roots (Inventory.loadAll fetcher kind roots Inventory.empty).state
      (Inventory.loadAll fetcher kind roots Inventory.empty).events := by
  rcases ended : Inventory.loadEach fetcher kind roots Inventory.empty with
    ⟨inventory, events, _ | _⟩
  · rw [Inventory.loadAll, Session.bind_of_error ended] at success
    cases success
  · rw [Inventory.loadAll, Session.bind_of_ok ended]
    have start : Visited fetcher (([] : List String).flatMap (fetcher.visits kind))
        Inventory.empty [] := visited_nil fetcher
    have visited := start.loadEach echoes roots (by rw [ended])
    have whole := (Inventory.loadEach_growths fetcher kind roots Inventory.empty).keep
      whole_of_growth whole_empty
    rw [ended] at visited whole
    rw [List.nil_append, List.nil_append] at visited
    have quiet : askedIn (events ++ [.loaded inventory.dashboards.length
        inventory.widgets.length inventory.queries.length inventory.visualizations.length]) =
        askedIn events := by
      rw [askedIn, List.filter_append]
      exact List.append_nil _
    refine
      { dashboardIds := ?_
        dashboards := visited.dashboards
        widgets := whole.widgets.imp fun _ _ => widgetAt_of_widgetEntries
        queryIds := ?_
        queries := visited.queries
        visualizations := whole.visualizations.imp
          fun _ _ => visualizationOf_of_visualizationEntries
        asked := quiet.trans visited.asked }
    · exact visited.dashboardIds.trans
        (congrArg List.eraseDups (filterMap_dashboardId?_visits fetcher kind roots))
    · refine visited.queryIds.trans ?_
      cases kind with
      | dashboard =>
          show _ = (inventory.dashboards.flatMap fun entry =>
            entry.object.referredQueries).eraseDups
          rw [visited.flatMap_referredQueries, filterMap_queryId?_visits_dashboard,
            filterMap_dashboardId?_visits]
          exact (eraseDups_flatMap_eraseDups fetcher.shownBy roots).symm
      | query => exact congrArg List.eraseDups (filterMap_queryId?_visits_query fetcher roots)

/-- A widget that shows a chart of a query. -/
def showingPayload (id : Int) (query : String) : Json :=
  .obj [("id", .int id), ("visualization", .obj [("id", .int id), ("type", .str "chart"),
    ("query", .obj [("id", .str query)])])]

/-- Two dashboards of one name that share the query `r`; one of them has a widget that shows
nothing. -/
def sharingDashboards : List Dashboard :=
  [{ id := "a", name := "KPIs", tags := [],
      widgets := [showingPayload 1 "q", .obj [("id", .int 2), ("visualization", .null)],
        showingPayload 3 "r"] },
    { id := "b", name := "KPIs", tags := [],
      widgets := [showingPayload 4 "r", showingPayload 5 "s"] }]

/-- The queries they refer to. -/
def sharedQueries : List Query :=
  ["q", "r", "s"].map fun id =>
    { id, dataSourceId := "", name := id, description := none, text := "", schedule := none,
      options := ⟨[]⟩, tags := [],
      visualizations := [.obj [("id", .int 11), ("type", .str "chart")]] }

theorem loadAll_traversal_sharing :
    (Inventory.loadAll (servingFetcher sharingDashboards sharedQueries) .dashboard ["a", "b", "a"]
      Inventory.empty).result = .ok () ∧
    Traversal (servingFetcher sharingDashboards sharedQueries) .dashboard ["a", "b", "a"]
      (Inventory.loadAll (servingFetcher sharingDashboards sharedQueries) .dashboard
        ["a", "b", "a"] Inventory.empty).state
      (Inventory.loadAll (servingFetcher sharingDashboards sharedQueries) .dashboard
        ["a", "b", "a"] Inventory.empty).events :=
  ⟨by decide +kernel,
    loadAll_traversal (servingFetcher_echoes _ _) .dashboard ["a", "b", "a"] (by decide +kernel)⟩

end DashboardExport
