import DashboardExport.Inventory.Loading

/-!
# What a load does

Each load is described once, by the ways in which it can end (`QueryLoad`, `ShownLoad`,
`DashboardLoad`): what was asked and answered, what is told, which inventory is left, and
the result.  What one load does is read off these descriptions; only a comparison of two
loads, step by step, goes back to the sessions.
-/

set_option autoImplicit false

namespace DashboardExport

open Service

section Fetching

variable {σ α : Type} {fetched : Fetched α}

theorem Session.ofFetched_of_ok {value : α} (answered : fetched.result = .ok value) (s : σ) :
    Session.ofFetched fetched s = ⟨s, fetched.events, .ok value⟩ := by
  rw [Session.ofFetched, answered]

theorem Session.ofFetched_of_error {failure : Failure} (failed : fetched.result = .error failure)
    (s : σ) : Session.ofFetched fetched s = ⟨s, fetched.events, .error failure⟩ := by
  rw [Session.ofFetched, failed]

end Fetching

namespace Inventory

/-! ## Queries -/

/-- What is told when a query gets its name. -/
def queryNamed (inventory : Inventory) (query : Query) : Event :=
  .named .query query.id query.name (inventory.queryEntry query).resourceName

/-- How the load of a query ends. -/
inductive QueryLoad (fetcher : Fetcher) (id : String) (inventory : Inventory) :
    Ending Inventory Unit → Prop where
  | known (present : inventory.hasQuery id = true) :
      QueryLoad fetcher id inventory ⟨inventory, [.alreadyLoaded .query id], .ok ()⟩
  | unfetched (absent : inventory.hasQuery id = false) {failure : Failure}
      (failed : (fetcher.query id).result = .error failure) :
      QueryLoad fetcher id inventory ⟨inventory, (fetcher.query id).events, .error failure⟩
  | undecodable (absent : inventory.hasQuery id = false) {query : Query}
      (fetched : (fetcher.query id).result = .ok query) {refusal : Refusal}
      (refused : visualizationEntries (inventory.queryEntry query) = .error refusal) :
      QueryLoad fetcher id inventory
        ⟨inventory, (fetcher.query id).events ++ [inventory.queryNamed query],
          .error (.refused refusal)⟩
  | added (absent : inventory.hasQuery id = false) {query : Query}
      (fetched : (fetcher.query id).result = .ok query)
      {visualizations : List (Entry Visualization)}
      (decoded : visualizationEntries (inventory.queryEntry query) = .ok visualizations) :
      QueryLoad fetcher id inventory
        ⟨inventory.addQuery (inventory.queryEntry query) visualizations,
          (fetcher.query id).events ++ [inventory.queryNamed query], .ok ()⟩

theorem admitQuery_of_ok {inventory : Inventory} {query : Query}
    {visualizations : List (Entry Visualization)}
    (decoded : visualizationEntries (inventory.queryEntry query) = .ok visualizations) :
    admitQuery query inventory =
      ⟨inventory.addQuery (inventory.queryEntry query) visualizations,
        [inventory.queryNamed query], .ok ()⟩ := by
  simp only [admitQuery, Session.state_bind, Session.tell_bind, decoded,
    Session.ofRefusal_ok_bind]
  rfl

theorem admitQuery_of_error {inventory : Inventory} {query : Query} {refusal : Refusal}
    (refused : visualizationEntries (inventory.queryEntry query) = .error refusal) :
    admitQuery query inventory =
      ⟨inventory, [inventory.queryNamed query], .error (.refused refusal)⟩ := by
  simp only [admitQuery, Session.state_bind, Session.tell_bind, refused,
    Session.ofRefusal_error_bind]
  rfl

/-- **The load of a query ends in one of these ways.** -/
theorem queryLoad (fetcher : Fetcher) (id : String) (inventory : Inventory) :
    QueryLoad fetcher id inventory (loadQuery fetcher id inventory) := by
  rw [loadQuery, Session.state_bind]
  cases known : inventory.hasQuery id with
  | true => exact .known known
  | false =>
      rw [if_neg (by decide)]
      cases fetched : (fetcher.query id).result with
      | error failure =>
          rw [Session.bind_of_error (Session.ofFetched_of_error fetched inventory)]
          exact .unfetched known fetched
      | ok query =>
          rw [Session.bind_of_ok (Session.ofFetched_of_ok fetched inventory)]
          cases decoded : visualizationEntries (inventory.queryEntry query) with
          | error refusal =>
              rw [admitQuery_of_error decoded]
              exact .undecodable known fetched decoded
          | ok visualizations =>
              rw [admitQuery_of_ok decoded]
              exact .added known fetched decoded

/-! ## Queries that widgets show -/

/-- How the load of what a widget shows ends. -/
inductive ShownLoad (fetcher : Fetcher) (widget : Widget) (inventory : Inventory) :
    Ending Inventory Unit → Prop where
  | unreadable {refusal : Refusal} (refused : widget.shownQuery? = .error refusal) :
      ShownLoad fetcher widget inventory ⟨inventory, [], .error (.refused refusal)⟩
  | nothing (shows : widget.shownQuery? = .ok none) :
      ShownLoad fetcher widget inventory ⟨inventory, [], .ok ()⟩
  | query {id : String} (shows : widget.shownQuery? = .ok (some id))
      {ending : Ending Inventory Unit} (load : QueryLoad fetcher id inventory ending) :
      ShownLoad fetcher widget inventory ending

theorem shownLoad (fetcher : Fetcher) (widget : Widget) (inventory : Inventory) :
    ShownLoad fetcher widget inventory (loadShown fetcher widget inventory) := by
  rw [loadShown]
  cases shows : widget.shownQuery? with
  | error refusal =>
      rw [Session.ofRefusal_error_bind]
      exact .unreadable shows
  | ok shown =>
      rw [Session.ofRefusal_ok_bind]
      cases shown with
      | none => exact .nothing shows
      | some id => exact .query shows (queryLoad fetcher id inventory)

/-- How the loads of what widgets show end, widget by widget. -/
inductive ShownLoads (fetcher : Fetcher) :
    List (Entry Widget) → Inventory → Ending Inventory Unit → Prop where
  | done (inventory : Inventory) : ShownLoads fetcher [] inventory ⟨inventory, [], .ok ()⟩
  | failed {entry : Entry Widget} {inventory middle : Inventory} {events : List Event}
      {failure : Failure} (rest : List (Entry Widget))
      (load : ShownLoad fetcher entry.object inventory ⟨middle, events, .error failure⟩) :
      ShownLoads fetcher (entry :: rest) inventory ⟨middle, events, .error failure⟩
  | step {entry : Entry Widget} {inventory middle : Inventory} {events : List Event}
      {rest : List (Entry Widget)} {ending : Ending Inventory Unit}
      (load : ShownLoad fetcher entry.object inventory ⟨middle, events, .ok ()⟩)
      (loads : ShownLoads fetcher rest middle ending) :
      ShownLoads fetcher (entry :: rest) inventory
        ⟨ending.state, events ++ ending.events, ending.result⟩

theorem shownLoads (fetcher : Fetcher) (widgets : List (Entry Widget)) (inventory : Inventory) :
    ShownLoads fetcher widgets inventory (loadAllShown fetcher widgets inventory) := by
  induction widgets generalizing inventory with
  | nil => exact .done inventory
  | cons entry rest ih =>
      have load := shownLoad fetcher entry.object inventory
      rw [loadAllShown]
      rcases ended : loadShown fetcher entry.object inventory with ⟨middle, events, _ | _⟩
      · rw [Session.bind_of_error ended]
        exact .failed rest (ended ▸ load)
      · rw [Session.bind_of_ok ended]
        exact .step (ended ▸ load) (ih middle)

/-! ## Dashboards -/

/-- What is told when a dashboard gets its name. -/
def dashboardNamed (inventory : Inventory) (dashboard : Dashboard) : Event :=
  .named .dashboard dashboard.id dashboard.name (inventory.dashboardEntry dashboard).resourceName

/-- How the load of a dashboard ends. -/
inductive DashboardLoad (fetcher : Fetcher) (id : String) (inventory : Inventory) :
    Ending Inventory Unit → Prop where
  | known (present : inventory.hasDashboard id = true) :
      DashboardLoad fetcher id inventory ⟨inventory, [.alreadyLoaded .dashboard id], .ok ()⟩
  | unfetched (absent : inventory.hasDashboard id = false) {failure : Failure}
      (failed : (fetcher.dashboard id).result = .error failure) :
      DashboardLoad fetcher id inventory
        ⟨inventory, (fetcher.dashboard id).events, .error failure⟩
  | undecodable (absent : inventory.hasDashboard id = false) {dashboard : Dashboard}
      (fetched : (fetcher.dashboard id).result = .ok dashboard) {refusal : Refusal}
      (refused : widgetEntries (inventory.dashboardEntry dashboard) = .error refusal) :
      DashboardLoad fetcher id inventory
        ⟨inventory, (fetcher.dashboard id).events ++ [inventory.dashboardNamed dashboard],
          .error (.refused refusal)⟩
  | admitted (absent : inventory.hasDashboard id = false) {dashboard : Dashboard}
      (fetched : (fetcher.dashboard id).result = .ok dashboard) {widgets : List (Entry Widget)}
      (decoded : widgetEntries (inventory.dashboardEntry dashboard) = .ok widgets)
      {ending : Ending Inventory Unit}
      (loads : ShownLoads fetcher widgets
        (inventory.addDashboard (inventory.dashboardEntry dashboard) widgets) ending) :
      DashboardLoad fetcher id inventory
        ⟨ending.state, (fetcher.dashboard id).events ++
          (inventory.dashboardNamed dashboard :: ending.events), ending.result⟩

theorem admitDashboard_of_ok {inventory : Inventory} {dashboard : Dashboard}
    {widgets : List (Entry Widget)}
    (decoded : widgetEntries (inventory.dashboardEntry dashboard) = .ok widgets) :
    admitDashboard dashboard inventory =
      ⟨inventory.addDashboard (inventory.dashboardEntry dashboard) widgets,
        [inventory.dashboardNamed dashboard], .ok widgets⟩ := by
  simp only [admitDashboard, Session.state_bind, Session.tell_bind, decoded,
    Session.ofRefusal_ok_bind, Session.change_bind]
  rfl

theorem admitDashboard_of_error {inventory : Inventory} {dashboard : Dashboard}
    {refusal : Refusal}
    (refused : widgetEntries (inventory.dashboardEntry dashboard) = .error refusal) :
    admitDashboard dashboard inventory =
      ⟨inventory, [inventory.dashboardNamed dashboard], .error (.refused refusal)⟩ := by
  simp only [admitDashboard, Session.state_bind, Session.tell_bind, refused,
    Session.ofRefusal_error_bind]
  rfl

/-- **The load of a dashboard ends in one of these ways.** -/
theorem dashboardLoad (fetcher : Fetcher) (id : String) (inventory : Inventory) :
    DashboardLoad fetcher id inventory (loadDashboard fetcher id inventory) := by
  rw [loadDashboard, Session.state_bind]
  cases known : inventory.hasDashboard id with
  | true => exact .known known
  | false =>
      rw [if_neg (by decide)]
      cases fetched : (fetcher.dashboard id).result with
      | error failure =>
          rw [Session.bind_of_error (Session.ofFetched_of_error fetched inventory)]
          exact .unfetched known fetched
      | ok dashboard =>
          rw [Session.bind_of_ok (Session.ofFetched_of_ok fetched inventory)]
          cases decoded : widgetEntries (inventory.dashboardEntry dashboard) with
          | error refusal =>
              rw [Session.bind_of_error (admitDashboard_of_error decoded)]
              exact .undecodable known fetched decoded
          | ok widgets =>
              rw [Session.bind_of_ok (admitDashboard_of_ok decoded)]
              exact .admitted known fetched decoded (shownLoads fetcher widgets _)

end Inventory

end DashboardExport
