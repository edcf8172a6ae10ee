import DashboardExport.Proofs.Inventory.Traversal

/-!
# What a load leaves

Collections only grow: whatever a load does, each of the four begins with what it was
before (`Extends`).

A load of a query that fails leaves everything as it was.  A load of a dashboard that
fails does so too, as long as not all widgets are decoded; after that the dashboard and
its widgets stay, and with them exactly the queries that the widgets before the failing
one refer to (`FailedDashboard`).  The dashboard itself makes no difference to the load
of a query (`QueryLoad.of_besides`), so these queries can be described by loading them
into the inventory as it was before the dashboard joined it.
-/

set_option autoImplicit false

namespace DashboardExport

open Decoding Service

namespace Inventory

/-! ## Collections only grow -/

/-- Each collection of the later inventory begins with that of the earlier one. -/
structure Extends (before after : Inventory) : Prop where
  dashboards : before.dashboards <+: after.dashboards
  widgets : before.widgets <+: after.widgets
  queries : before.queries <+: after.queries
  visualizations : before.visualizations <+: after.visualizations

theorem Extends.refl (inventory : Inventory) : inventory.Extends inventory :=
  ⟨List.prefix_refl _, List.prefix_refl _, List.prefix_refl _, List.prefix_refl _⟩

theorem Extends.trans {first second third : Inventory} (earlier : first.Extends second)
    (later : second.Extends third) : first.Extends third where
  dashboards := earlier.dashboards.trans later.dashboards
  widgets := earlier.widgets.trans later.widgets
  queries := earlier.queries.trans later.queries
  visualizations := earlier.visualizations.trans later.visualizations

theorem extends_of_growth {before after : Inventory} (growth : Growth before after) :
    before.Extends after := by
  cases growth with
  | query query _ =>
      exact ⟨List.prefix_refl _, List.prefix_refl _, List.prefix_append _ _,
        List.prefix_append _ _⟩
  | dashboard dashboard _ =>
      exact ⟨List.prefix_append _ _, List.prefix_append _ _, List.prefix_refl _,
        List.prefix_refl _⟩

/-- **Inventories that growths lead to extend the one they start from.** -/
theorem Growths.extends {before after : Inventory} (growths : Growths before after) :
    before.Extends after := by
  induction growths with
  | refl => exact .refl before
  | tail _ growth ih => exact ih.trans (extends_of_growth growth)

/-! ## Loads of queries -/

variable {fetcher : Fetcher} {id : String} {inventory : Inventory}
  {ending : Ending Inventory Unit}

/-- The load of a query ends in one way only. -/
theorem QueryLoad.eq_loadQuery (load : QueryLoad fetcher id inventory ending) :
    loadQuery fetcher id inventory = ending := by
  rw [loadQuery, Session.state_bind]
  cases load with
  | known present => exact congrFun (if_pos present) inventory
  | unfetched absent failed =>
      rw [absent, if_neg Bool.false_ne_true,
        Session.bind_of_error (Session.ofFetched_of_error failed inventory)]
  | undecodable absent fetched refused =>
      rw [absent, if_neg Bool.false_ne_true,
        Session.bind_of_ok (Session.ofFetched_of_ok fetched inventory),
        admitQuery_of_error refused]
  | added absent fetched decoded =>
      rw [absent, if_neg Bool.false_ne_true,
        Session.bind_of_ok (Session.ofFetched_of_ok fetched inventory), admitQuery_of_ok decoded]

/-- **A load of a query that fails changes nothing.** -/
theorem QueryLoad.state_of_error (load : QueryLoad fetcher id inventory ending)
    {failure : Failure} (failed : ending.result = .error failure) : ending.state = inventory := by
  cases load with
  | known _ => cases failed
  | unfetched _ _ => rfl
  | undecodable _ _ _ => rfl
  | added _ _ _ => cases failed

/-- An inventory with other dashboards and widgets. -/
def besides (inventory : Inventory) (dashboards : List (Entry Dashboard))
    (widgets : List (Entry Widget)) : Inventory :=
  { inventory with dashboards, widgets }

/-- **Dashboards and widgets make no difference to the load of a query.** -/
theorem QueryLoad.of_besides {dashboards : List (Entry Dashboard)} {widgets : List (Entry Widget)}
    (load : QueryLoad fetcher id (inventory.besides dashboards widgets) ending) :
    ∃ after, loadQuery fetcher id inventory = ⟨after, ending.events, ending.result⟩ ∧
      ending.state = after.besides dashboards widgets := by
  cases load with
  | known present =>
      have known : inventory.hasQuery id = true := present
      exact ⟨inventory, (QueryLoad.known known).eq_loadQuery, rfl⟩
  | unfetched absent failed =>
      have unknown : inventory.hasQuery id = false := absent
      exact ⟨inventory, (QueryLoad.unfetched unknown failed).eq_loadQuery, rfl⟩
  | @undecodable absent query fetched refusal refused =>
      have unknown : inventory.hasQuery id = false := absent
      have same : visualizationEntries (inventory.queryEntry query) = .error refusal := refused
      exact ⟨inventory, (QueryLoad.undecodable unknown fetched same).eq_loadQuery, rfl⟩
  | @added absent query fetched visualizations decoded =>
      have unknown : inventory.hasQuery id = false := absent
      have same : visualizationEntries (inventory.queryEntry query) = .ok visualizations := decoded
      exact ⟨inventory.addQuery (inventory.queryEntry query) visualizations,
        (QueryLoad.added unknown fetched same).eq_loadQuery, rfl⟩

end Inventory

/-! ## References in widgets -/

/-- The reference to a query that the payload of a widget carries, as it was sent. -/
def queryReference? (payload : Json) : Option Json := do
  let widget ← (Widget.decode payload).value?
  let visualization ← (Visualization.decode (← present? widget.visualization)).value?
  present? visualization.query

/-- A widget fails to show a query only for a reference that does not decode. -/
theorem queryReference?_of_widgetAt {dashboard : Entry Dashboard} {payload : Json × Nat}
    {entry : Entry Widget} (read : WidgetAt dashboard payload entry) {refusal : Refusal}
    (refused : entry.object.shownQuery? = .error refusal) :
    ∃ reference, queryReference? payload.1 = some reference ∧
      Refusal.ofOutcome (.part "QueryRef") (QueryRef.decode reference) = .error refusal := by
  cases read with
  | @read payload position widget link decoded linked =>
      rw [Widget.shownQuery?] at refused
      simp only [queryReference?, decoded, Outcome.value?, Option.bind_eq_bind, Option.bind_some]
      cases linked with
      | named absent =>
          rw [absent] at refused
          cases refused
      | @embedded content visualization shown visualizationDecoded =>
          rw [shown] at refused
          simp only [shown, visualizationDecoded, Option.bind_some]
          rcases except_bind_eq_error_iff.1 refused with undecoded | ⟨read, readDecoded, refused⟩
          · rw [decodeVisualization_eq_ok_iff.2 visualizationDecoded] at undecoded
            cases undecoded
          · rw [decodeVisualization_eq_ok_iff.2 visualizationDecoded] at readDecoded
            cases readDecoded
            cases referred : present? visualization.query with
            | none =>
                rw [referred] at refused
                cases refused
            | some reference =>
                rw [referred] at refused
                rcases except_bind_eq_error_iff.1 refused with undecoded | ⟨_, _, made⟩
                · exact ⟨reference, rfl, undecoded⟩
                · cases made

namespace Inventory

/-- The payload of a widget that stops the load of its dashboard: its reference to a query does not
decode, or the query that it refers to cannot be loaded. -/
inductive Stops (fetcher : Fetcher) (inventory : Inventory) : Json → Failure → Prop where
  | unreadable {payload reference : Json} (carries : queryReference? payload = some reference)
      {refusal : Refusal}
      (refused : Refusal.ofOutcome (.part "QueryRef") (QueryRef.decode reference) =
        .error refusal) :
      Stops fetcher inventory payload (.refused refusal)
  | unloadable {payload : Json} {query : String} (refers : referredQuery? payload = some query)
      {failure : Failure} (failed : (loadQuery fetcher query inventory).result = .error failure) :
      Stops fetcher inventory payload failure

section Widgets

variable {fetcher : Fetcher} {dashboard : Entry Dashboard} {inventory : Inventory}
  {dashboards : List (Entry Dashboard)} {widgets : List (Entry Widget)}

/-- A widget whose query is not loaded stops the load, and nothing changes. -/
theorem ShownLoad.of_error {payload : Json × Nat} {entry : Entry Widget}
    (read : WidgetAt dashboard payload entry) {ending : Ending Inventory Unit}
    (load : ShownLoad fetcher entry.object (inventory.besides dashboards widgets) ending)
    {failure : Failure} (failed : ending.result = .error failure) :
    Stops fetcher inventory payload.1 failure ∧
      ending.state = inventory.besides dashboards widgets := by
  cases load with
  | unreadable refused =>
      obtain ⟨reference, carries, undecoded⟩ := queryReference?_of_widgetAt read refused
      cases failed
      exact ⟨.unreadable carries undecoded, rfl⟩
  | nothing _ => cases failed
  | query shows load =>
      obtain ⟨after, same, _⟩ := load.of_besides
      refine ⟨.unloadable (referredQuery?_of_widgetAt read shows) ?_, load.state_of_error failed⟩
      rw [same]
      exact failed

/-- **When the load of what widgets show fails, it has completed the references before.** -/
theorem ShownLoads.of_error {entries : List (Entry Widget)} {shared : Inventory}
    {ending : Ending Inventory Unit} (loads : ShownLoads fetcher entries shared ending)
    (same : shared = inventory.besides dashboards widgets) {payloads : List (Json × Nat)}
    (read : List.Forall₂ (WidgetAt dashboard) payloads entries) {failure : Failure}
    (failed : ending.result = .error failure) :
    ∃ earlier payload later after events,
      payloads.map Prod.fst = earlier ++ payload :: later ∧
      loadEach fetcher .query (earlier.filterMap referredQuery?) inventory =
        ⟨after, events, .ok ()⟩ ∧
      Stops fetcher after payload failure ∧ ending.state = after.besides dashboards widgets := by
  induction loads generalizing inventory payloads with
  | done _ => cases failed
  | failed rest load =>
      obtain _ | ⟨first, _⟩ := read
      subst same
      obtain ⟨stops, unchanged⟩ := load.of_error first failed
      exact ⟨[], _, _, inventory, [], rfl, rfl, stops, unchanged⟩
  | @step entry shared middle told rest ending load loads ih =>
      obtain _ | ⟨first, later⟩ := read
      rename_i payload payloads
      subst same
      cases load with
      | nothing shows =>
          obtain ⟨earlier, stopping, others, after, events, listed, complete, stops, left⟩ :=
            ih rfl later failed
          refine ⟨payload.1 :: earlier, stopping, others, after, events, ?_, ?_, stops, left⟩
          · rw [List.map_cons, listed, List.cons_append]
          · rw [List.filterMap_cons, referredQuery?_of_widgetAt first shows]
            exact complete
      | query shows shownQuery =>
          obtain ⟨loaded, one, sameLoaded⟩ := shownQuery.of_besides
          obtain ⟨earlier, stopping, others, after, events, listed, complete, stops, left⟩ :=
            ih sameLoaded later failed
          refine ⟨payload.1 :: earlier, stopping, others, after, told ++ events, ?_, ?_, stops,
            left⟩
          · rw [List.map_cons, listed, List.cons_append]
          · rw [List.filterMap_cons, referredQuery?_of_widgetAt first shows]
            have step : load fetcher .query _ inventory = ⟨loaded, told, .ok ()⟩ := one
            rw [loadEach, Session.bind_of_ok step, complete]

end Widgets

/-! ## Loads of dashboards -/

/-- What the failed load of a dashboard leaves of an inventory. -/
inductive FailedDashboard (fetcher : Fetcher) (id : String) (before : Inventory) :
    Inventory → Failure → Prop where
  /-- The dashboard cannot be fetched, and nothing joins the inventory. -/
  | unfetched {failure : Failure} (failed : (fetcher.dashboard id).result = .error failure) :
      FailedDashboard fetcher id before before failure
  /-- Not all widgets decode, and nothing joins the inventory. -/
  | undecodable {dashboard : Dashboard} (fetched : (fetcher.dashboard id).result = .ok dashboard)
      {refusal : Refusal}
      (refused : widgetEntries (before.dashboardEntry dashboard) = .error refusal) :
      FailedDashboard fetcher id before before (.refused refusal)
  /-- A widget stops the load.  The dashboard and all its widgets are there, and of the queries
  those that the widgets before it refer to. -/
  | stopped {dashboard : Dashboard} (fetched : (fetcher.dashboard id).result = .ok dashboard)
      {widgets : List (Entry Widget)}
      (decoded : widgetEntries (before.dashboardEntry dashboard) = .ok widgets)
      {earlier later : List Json} {payload : Json}
      (listed : dashboard.widgets = earlier ++ payload :: later) {loaded : Inventory}
      {events : List Event}
      (complete : loadEach fetcher .query (earlier.filterMap referredQuery?) before =
        ⟨loaded, events, .ok ()⟩)
      {failure : Failure} (stops : Stops fetcher loaded payload failure) :
      FailedDashboard fetcher id before
        { dashboards := before.dashboards ++ [before.dashboardEntry dashboard]
          widgets := before.widgets ++ widgets
          queries := loaded.queries
          visualizations := loaded.visualizations }
        failure

theorem DashboardLoad.of_error {fetcher : Fetcher} {id : String} {inventory : Inventory}
    {ending : Ending Inventory Unit} (load : DashboardLoad fetcher id inventory ending)
    {failure : Failure} (failed : ending.result = .error failure) :
    FailedDashboard fetcher id inventory ending.state failure := by
  cases load with
  | known _ => cases failed
  | unfetched _ unanswered =>
      cases failed
      exact .unfetched unanswered
  | undecodable _ fetched refused =>
      cases failed
      exact .undecodable fetched refused
  | @admitted _ dashboard fetched widgets decoded ending loads =>
      obtain ⟨earlier, payload, later, loaded, events, listed, complete, stops, left⟩ :=
        loads.of_error rfl (widgetAt_of_widgetEntries decoded) failed
      rw [List.zipIdx_map_fst] at listed
      rw [left]
      exact .stopped fetched decoded listed complete stops

/-- **Loads only add to the inventory, and a load that fails leaves a precise state.**  Entries
that are there stay as they are, whether the load fails or not.  A query that cannot be loaded
changes nothing; of a dashboard either nothing joins the inventory, or all of it and exactly the
queries that were referred to before the failure. -/
theorem load_leaves (fetcher : Fetcher) (inventory : Inventory) :
    (∀ (kind : RemoteKind) (id : String),
      inventory.Extends (load fetcher kind id inventory).state) ∧
    (∀ (id : String) (failure : Failure),
      (load fetcher .query id inventory).result = .error failure →
        (load fetcher .query id inventory).state = inventory) ∧
    ∀ (id : String) (failure : Failure),
      (load fetcher .dashboard id inventory).result = .error failure →
        FailedDashboard fetcher id inventory (load fetcher .dashboard id inventory).state
          failure := by
  refine ⟨?_, ?_, ?_⟩
  · intro kind id
    exact (load_growths fetcher kind id inventory).extends
  · intro id failure failed
    exact (queryLoad fetcher id inventory).state_of_error failed
  · intro id failure failed
    exact (dashboardLoad fetcher id inventory).of_error failed

/-- A dashboard whose third widget refers to a query that is not there. -/
def brokenDashboard : Dashboard where
  id := "a"
  name := "KPIs"
  tags := []
  widgets := [showingPayload 1 "q", .obj [("id", .int 2)], showingPayload 3 "missing",
    showingPayload 4 "r"]

/-- The service that holds it. -/
def brokenService : Fetcher := servingFetcher [brokenDashboard] sharedQueries

theorem load_leaves_broken :
    (load brokenService .dashboard "a" empty).result =
        .error (.service (.notFound .query "missing")) ∧
      (load brokenService .dashboard "a" empty).state.widgets.map Entry.resourceName =
        ["kpis_0", "kpis_1", "kpis_2", "kpis_3"] ∧
      (load brokenService .dashboard "a" empty).state.queries.map Entry.remoteId = ["q"] ∧
      FailedDashboard brokenService "a" empty (load brokenService .dashboard "a" empty).state
        (.service (.notFound .query "missing")) := by
  have failed : (load brokenService .dashboard "a" empty).result =
      .error (.service (.notFound .query "missing")) := by decide +kernel
  exact ⟨failed, by decide +kernel, by decide +kernel,
    (load_leaves brokenService empty).2.2 "a" _ failed⟩

end Inventory

end DashboardExport
