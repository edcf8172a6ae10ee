import DashboardExport.Proofs.Export.Runs
import DashboardExport.Proofs.Inventory.Traversal
import DashboardExport.Proofs.Rendering.Files

/-!
# Consistent services

A dashboard cannot be written when one of its widgets is linked to a visualization that no
loaded query has.  The payload of a widget and that of a query come from the service
separately, and only the service can make them agree (`Service.Fetcher.Consistent`).

If it does, loading all dashboards finds what every widget is linked to: the dashboard was
visited, and with it the query that the widget refers to, by this dashboard or by an earlier
one; and a query that was visited has all its visualizations.  So no widget of a loaded
dashboard is left without what it shows (`renderDashboard_consistent`).
-/

set_option autoImplicit false

namespace DashboardExport

open Decoding Service Rendering

/-! ## What a service promises -/

namespace Service.Fetcher

/-- The service has a query with a visualization of the given id. -/
def Offers (fetcher : Fetcher) (queryId visualizationId : String) : Prop :=
  ∃ query, (fetcher.query queryId).result = .ok query ∧
    ∃ payload ∈ query.visualizations, ∃ visualization,
      Visualization.decode payload = .value visualization ∧ visualization.id = visualizationId

/-- A service whose widgets show only what its queries have. -/
structure Consistent (fetcher : Fetcher) : Prop where
  /-- No widget names a visualization that it does not embed. -/
  embedded : ∀ {id : String} {dashboard : Dashboard},
    (fetcher.dashboard id).result = .ok dashboard → ∀ payload ∈ dashboard.widgets,
      ∀ {widget : Widget}, Widget.decode payload = .value widget →
        present? widget.visualization = none → widget.visualizationId = none
  /-- A widget that embeds a visualization refers to a query that has one of the same id. -/
  offered : ∀ {id : String} {dashboard : Dashboard},
    (fetcher.dashboard id).result = .ok dashboard → ∀ payload ∈ dashboard.widgets,
      ∀ {widget : Widget}, Widget.decode payload = .value widget →
        ∀ {shown : Json}, present? widget.visualization = some shown →
          ∀ {visualization : Visualization}, Visualization.decode shown = .value visualization →
            ∃ query, referredQuery? payload = some query ∧ fetcher.Offers query visualization.id

variable {fetcher : Fetcher}

/-- What the widget of a payload is linked to is offered by the query that the payload refers
to. -/
theorem Consistent.offers (consistent : fetcher.Consistent) {dashboard : Entry Dashboard}
    (served : (fetcher.dashboard dashboard.remoteId).result = .ok dashboard.object)
    {payload : Json × Nat} (member : payload.1 ∈ dashboard.object.widgets)
    {widget : Entry Widget} (read : WidgetAt dashboard payload widget) {id : String}
    (link : widget.object.visualizationId = some id) :
    ∃ query, referredQuery? payload.1 = some query ∧ fetcher.Offers query id := by
  cases read with
  | read decoded linked =>
      cases linked with
      | named absent =>
          have unnamed := consistent.embedded served _ member decoded absent
          rw [unnamed] at link
          cases link
      | embedded shown visualizationDecoded =>
          cases link
          exact consistent.offered served _ member decoded shown visualizationDecoded

end Service.Fetcher

/-! ## What is loaded then -/

/-- **The queries that a visited dashboard refers to are there.** -/
theorem Visited.hasQuery_of_referred {fetcher : Fetcher} {roots : List String}
    {inventory : Inventory} {events : List Event}
    (visited : Visited fetcher (roots.flatMap (fetcher.visits .dashboard)) inventory events)
    {dashboard : Entry Dashboard} (loaded : dashboard ∈ inventory.dashboards) {payload : Json}
    (member : payload ∈ dashboard.object.widgets) {query : String}
    (refers : referredQuery? payload = some query) : inventory.hasQuery query = true := by
  have known : inventory.hasDashboard dashboard.remoteId = true :=
    List.any_eq_true.2 ⟨dashboard, loaded, beq_self_eq_true _⟩
  obtain ⟨root, asked, visit⟩ := List.mem_flatMap.1 ((visited.hasDashboard_iff _).1 known)
  rw [← Visited.root_of_dashboard_mem visit] at asked
  rw [visited.hasQuery_iff]
  refine List.mem_flatMap.2 ⟨dashboard.remoteId, asked, List.mem_cons_of_mem _ ?_⟩
  refine List.mem_map.2 ⟨query, ?_, rfl⟩
  rw [Fetcher.shownBy, visited.dashboards dashboard loaded]
  exact List.mem_filterMap.2 ⟨payload, member, refers⟩

/-- A query that was visited brings what it offers. -/
theorem Visited.exists_findVisualization {fetcher : Fetcher} {calls : List LoadCall}
    {visits : List (RemoteKind × String)} {events : List Event}
    (visited : Visited fetcher visits (Inventory.reached calls) events)
    (echoes : ∀ call ∈ calls, call.fetcher.Echoes) {queryId id : String}
    (known : (Inventory.reached calls).hasQuery queryId = true)
    (offers : fetcher.Offers queryId id) :
    ∃ shown, (Inventory.reached calls).findVisualization id = some shown := by
  obtain ⟨query, served, payload, member, visualization, decoded, rfl⟩ := offers
  obtain ⟨entry, loaded, same⟩ := List.any_eq_true.1 known
  have answer := visited.queries entry loaded
  rw [beq_iff_eq.1 same, served] at answer
  cases answer
  have entries := visualizationOf_of_visualizationEntries
    (visualizationEntries_visualizationsFor echoes loaded)
  obtain ⟨held, inside, made⟩ := exists_mem_of_forall₂ entries.flip member
  refine Option.isSome_iff_exists.1 (List.find?_isSome.2 ⟨held, List.mem_of_mem_filter inside, ?_⟩)
  cases made with
  | read _ owned =>
      cases owned with
      | read decodedAgain =>
          rw [decoded] at decodedAgain
          cases decodedAgain
          exact beq_self_eq_true _

/-- **A consistent service leads to an inventory in which every widget of a dashboard finds the
visualization that it is linked to.** -/
theorem exists_findVisualization_of_consistent {fetcher : Fetcher} (echoes : fetcher.Echoes)
    (consistent : fetcher.Consistent) {roots : List String} {inventory : Inventory}
    (gives : (Inventory.loadEach fetcher .dashboard roots).Gives Inventory.empty inventory ())
    {dashboard : Entry Dashboard} (loaded : dashboard ∈ inventory.dashboards)
    {widget : Entry Widget} (member : widget ∈ inventory.widgetsFor dashboard) {id : String}
    (link : widget.object.visualizationId = some id) :
    ∃ shown, inventory.findVisualization id = some shown := by
  have start : Visited fetcher (([] : List String).flatMap (fetcher.visits .dashboard))
      Inventory.empty [] := visited_nil fetcher
  have visited := start.loadEach echoes roots gives.result
  rw [gives.state, List.nil_append, List.nil_append] at visited
  cases Inventory.eq_reached_of_gives gives
  have echoing : ∀ call ∈ Inventory.callsFor fetcher .dashboard roots, call.fetcher.Echoes :=
    Inventory.callsFor_echo echoes roots
  have entries := widgetAt_of_widgetEntries (widgetEntries_widgetsFor echoing loaded)
  obtain ⟨payload, placed, read⟩ := exists_mem_of_forall₂ entries member
  have listed : payload.1 ∈ dashboard.object.widgets := List.fst_mem_of_mem_zipIdx placed
  obtain ⟨query, refers, offers⟩ :=
    consistent.offers (visited.dashboards dashboard loaded) listed read link
  exact visited.exists_findVisualization echoing
    (visited.hasQuery_of_referred loaded listed refers) offers

/-! ## Dashboards without a file -/

namespace Rendering

theorem mappingItem_ne_missingVisualization {widgetName : String} {mapping : ParameterMapping}
    {name id : String} :
    mappingItem widgetName mapping ≠ .error (.missingVisualization name id) := by
  intro failed
  rcases except_bind_eq_error_iff.1 failed with value | ⟨_, _, never⟩
  · rw [mappingValue] at value
    split at value <;> cases value
  · cases never

/-- A dashboard that cannot be written for want of a visualization has a widget that is linked to
it. -/
theorem exists_widget_of_missingVisualization {inventory : Inventory} {dashboard : Entry Dashboard}
    {name id : String}
    (failed : renderDashboard inventory dashboard =
      .error (.rendering (.missingVisualization name id))) :
    ∃ widget ∈ inventory.widgetsFor dashboard, widget.object.visualizationId = some id ∧
      inventory.findVisualization id = none := by
  obtain ⟨_, failed, same⟩ := except_mapError_eq_error_iff.1 failed
  cases same
  rw [except_map_eq_error_iff] at failed
  rcases except_bind_eq_error_iff.1 failed with failed | ⟨_, _, never⟩
  · obtain ⟨widget, member, failed⟩ := exists_mem_of_mapM_eq_error failed
    refine ⟨widget, member, ?_⟩
    rcases except_bind_eq_error_iff.1 failed with content | ⟨_, _, failed⟩
    · rw [contentItem] at content
      split at content
      · cases content
      · next link =>
          split at content
          · cases content
          · next absent =>
              cases content
              exact ⟨link, absent⟩
    · rcases except_bind_eq_error_iff.1 failed with mappings | ⟨_, _, never⟩
      · obtain ⟨_, _, failed⟩ := exists_mem_of_mapM_eq_error mappings
        exact absurd failed mappingItem_ne_missingVisualization
      · cases never
  · cases never

end Rendering

/-- **A consistent service leaves no widget without what it shows.**  The service answers an id
only with an object of that id, and its widgets show only what its queries have.  If all dashboards
asked for can be loaded, possibly several times, every widget of every dashboard has its content,
and none of the dashboards fails to be written because a visualization was not loaded. -/
theorem renderDashboard_consistent {fetcher : Fetcher} (echoes : fetcher.Echoes)
    (consistent : fetcher.Consistent) {roots : List String}
    (success : (Inventory.loadAll fetcher .dashboard roots Inventory.empty).result = .ok ()) :
    ∀ dashboard ∈ (Inventory.loadAll fetcher .dashboard roots Inventory.empty).state.dashboards,
      (∀ widget ∈ (Inventory.loadAll fetcher .dashboard roots Inventory.empty).state.widgetsFor
          dashboard,
        ∃ content, contentItem
          (Inventory.loadAll fetcher .dashboard roots Inventory.empty).state widget =
            .ok content) ∧
      ∀ widget id,
        renderDashboard (Inventory.loadAll fetcher .dashboard roots Inventory.empty).state
          dashboard ≠ .error (.rendering (.missingVisualization widget id)) := by
  have gives := Inventory.gives_loadAll_iff.1 (Session.gives_iff.2 ⟨rfl, success⟩)
  intro dashboard loaded
  constructor
  · intro widget member
    cases link : widget.object.visualizationId with
    | none => exact ⟨_, contentItem_eq_ok_iff.2 (.inl ⟨link, rfl⟩)⟩
    | some id =>
        obtain ⟨shown, found⟩ :=
          exists_findVisualization_of_consistent echoes consistent gives loaded member link
        exact ⟨_, contentItem_eq_ok_iff.2 (.inr ⟨id, shown, link, found, rfl⟩)⟩
  · intro name id failed
    obtain ⟨widget, member, link, absent⟩ := exists_widget_of_missingVisualization failed
    obtain ⟨shown, found⟩ :=
      exists_findVisualization_of_consistent echoes consistent gives loaded member link
    rw [absent] at found
    cases found

theorem mem_of_served {dashboards : List Dashboard} {queries : List Query} {id : String}
    {dashboard : Dashboard}
    (answer : ((servingFetcher dashboards queries).dashboard id).result = .ok dashboard) :
    dashboard ∈ dashboards := by
  simp only [servingFetcher] at answer
  split at answer
  · next found =>
      cases answer
      exact List.mem_of_find?_eq_some found
  · cases answer

/-- Two dashboards that share a query.  What the widgets show has integers for ids; the query gives
one of these ids as a text.  One widget shows a text. -/
def consistentService : Fetcher :=
  servingFetcher
    [{ id := "a", name := "KPIs", tags := [],
        widgets := [showingPayload 1 "q", .obj [("id", .int 2), ("text", .str "Sales")]] },
      { id := "b", name := "KPIs", tags := [], widgets := [showingPayload 3 "q"] }]
    [{ id := "q", dataSourceId := "", name := "Sales", description := none, text := "",
        schedule := none, options := ⟨[]⟩, tags := [],
        visualizations := [.obj [("id", .str "1"), ("type", .str "table")],
          .obj [("id", .int 3), ("type", .str "chart")]] }]

theorem consistent_consistentService : consistentService.Consistent := by
  have served {id : String} {dashboard : Dashboard}
      (answer : (consistentService.dashboard id).result = .ok dashboard) (payload : Json)
      (member : payload ∈ dashboard.widgets) :
      payload = showingPayload 1 "q" ∨ payload = showingPayload 3 "q" ∨
        payload = .obj [("id", .int 2), ("text", .str "Sales")] := by
    rcases List.mem_pair.1 (mem_of_served answer) with rfl | rfl
    · rcases List.mem_pair.1 member with same | same
      · exact .inl same
      · exact .inr (.inr same)
    · exact .inr (.inl (List.mem_singleton.1 member))
  constructor
  · intro _ _ answer payload member _ decoded absent
    rcases served answer payload member with rfl | rfl | rfl
    · cases decoded
      cases absent
    · cases decoded
      cases absent
    · cases decoded
      rfl
  · intro _ _ answer payload member _ decoded _ embedded _ shown
    rcases served answer payload member with rfl | rfl | rfl
    · cases decoded
      cases embedded
      cases shown
      exact ⟨"q", rfl, _, rfl, _, .head _, _, rfl, rfl⟩
    · cases decoded
      cases embedded
      cases shown
      exact ⟨"q", rfl, _, rfl, _, .tail _ (.head _), _, rfl, rfl⟩
    · cases decoded
      cases embedded

/-- What is loaded for both dashboards, one of which is asked for twice. -/
def consistentLoad : Ending Inventory Unit :=
  Inventory.loadAll consistentService .dashboard ["b", "a", "b"] Inventory.empty

theorem renderDashboard_consistent_shared :
    consistentService.Echoes ∧ consistentService.Consistent ∧ consistentLoad.result = .ok () ∧
      consistentLoad.state.widgets.map (fun entry => entry.object.visualizationId) =
        [some "3", some "1", none] ∧
      ∀ dashboard ∈ consistentLoad.state.dashboards,
        (∀ widget ∈ consistentLoad.state.widgetsFor dashboard,
          ∃ content, contentItem consistentLoad.state widget = .ok content) ∧
        ∀ widget id, renderDashboard consistentLoad.state dashboard ≠
          .error (.rendering (.missingVisualization widget id)) := by
  have echoes : consistentService.Echoes := servingFetcher_echoes _ _
  have success : consistentLoad.result = .ok () := by decide +kernel
  exact ⟨echoes, consistent_consistentService, success, by decide +kernel,
    renderDashboard_consistent echoes consistent_consistentService success⟩

end DashboardExport
