import DashboardExport.Proofs.Inventory.Parts

/-!
# Visits

A root is visited by asking for it and then, when it is a dashboard, for each query
that one of its widgets refers to (`Fetcher.visits`).  The inventory after some visits
holds what they ask for, in the order in which it was first asked for, and each object
was asked for once (`Visited`).

A visit to what is there already changes neither the inventory nor the visits without
repetitions (`Visited.again`).  Any other adds its object to the end of both
(`Visited.addQuery`, `Visited.addDashboard`).
-/

set_option autoImplicit false

namespace DashboardExport

open Decoding Service

/-! ## Services and visits -/

/-- A service that answers an id only with an object of that id. -/
structure Service.Fetcher.Echoes (fetcher : Fetcher) : Prop where
  dashboard : ∀ {id : String} {dashboard : Dashboard},
    (fetcher.dashboard id).result = .ok dashboard → dashboard.id = id
  query : ∀ {id : String} {query : Query}, (fetcher.query id).result = .ok query → query.id = id

theorem servingFetcher_echoes (dashboards : List Dashboard) (queries : List Query) :
    (servingFetcher dashboards queries).Echoes where
  dashboard := by
    intro id dashboard answer
    simp only [servingFetcher] at answer
    split at answer
    · next found =>
        cases answer
        have same := List.find?_some found
        exact eq_of_beq same
    · cases answer
  query := by
    intro id query answer
    simp only [servingFetcher] at answer
    split at answer
    · next found =>
        cases answer
        have same := List.find?_some found
        exact eq_of_beq same
    · cases answer

/-- The value of an outcome that has one. -/
def Decoding.Outcome.value? {α : Type} : Outcome α → Option α
  | .value result => some result
  | _ => none

/-- The query that the payload of a widget refers to: the widget's visualization is there and not
null, and so is the query of the visualization. -/
def referredQuery? (payload : Json) : Option String := do
  let widget ← (Widget.decode payload).value?
  let visualization ← (Visualization.decode (← present? widget.visualization)).value?
  let reference ← (QueryRef.decode (← present? visualization.query)).value?
  return reference.id

/-- The queries that the widgets of a dashboard refer to, in the order of the widgets. -/
def Dashboard.referredQueries (dashboard : Dashboard) : List String :=
  dashboard.widgets.filterMap referredQuery?

/-- The queries that a dashboard of the service shows; none if it cannot be fetched. -/
def Service.Fetcher.shownBy (fetcher : Fetcher) (id : String) : List String :=
  match (fetcher.dashboard id).result with
  | .ok dashboard => dashboard.referredQueries
  | .error _ => []

/-- What a visit to a root asks for. -/
def Service.Fetcher.visits (fetcher : Fetcher) : RemoteKind → String → List (RemoteKind × String)
  | .query, id => [(.query, id)]
  | .dashboard, id => (.dashboard, id) :: (fetcher.shownBy id).map fun query => (.query, query)

/-- What a service tells when it is asked for an object. -/
def Service.Fetcher.told (fetcher : Fetcher) : RemoteKind × String → List Event
  | (.dashboard, id) => (fetcher.dashboard id).events
  | (.query, id) => (fetcher.query id).events

/-- Whether an event tells of a request: that it is about to be made, or that it is made. -/
def Event.asks : Event → Bool
  | .fetching _ _ => true
  | .requested _ => true
  | _ => false

/-- The requests that events tell of. -/
def askedIn (events : List Event) : List Event := events.filter Event.asks

/-! ## Lists without repetitions -/

section Repetitions

variable {α : Type} [BEq α] [LawfulBEq α] {items more : List α} {item : α}

theorem eraseDups_append_of_subset (known : ∀ item ∈ more, item ∈ items) :
    (items ++ more).eraseDups = items.eraseDups := by
  have nothing : more.removeAll items = [] := by
    rw [List.removeAll, List.filter_eq_nil_iff]
    intro item member
    simpa using known item member
  rw [List.eraseDups_append, nothing, List.eraseDups_nil, List.append_nil]

theorem eraseDups_concat_of_not_mem (new : item ∉ items) :
    (items ++ [item]).eraseDups = items.eraseDups ++ [item] := by
  have all : [item].removeAll items = [item] := by
    rw [List.removeAll, List.filter_eq_self]
    intro other member
    rw [List.mem_singleton] at member
    subst member
    simpa using new
  rw [List.eraseDups_append, all, List.eraseDups_cons, List.filter_nil, List.eraseDups_nil]

/-- What follows is cut down by membership in what comes before only. -/
theorem eraseDups_append_congr {others : List α} (same : items.eraseDups = others.eraseDups) :
    (items ++ more).eraseDups = (others ++ more).eraseDups := by
  have cut : more.removeAll items = more.removeAll others := by
    refine List.filter_congr ?_
    intro item _
    have known : item ∈ items ↔ item ∈ others := by
      rw [← List.mem_eraseDups, same, List.mem_eraseDups]
    rw [Bool.eq_iff_iff]
    simp only [Bool.not_eq_true', List.contains_eq_mem, decide_eq_false_iff_not, known]
  rw [List.eraseDups_append, List.eraseDups_append, same, cut]

/-- Going through a list twice over its repetitions meets nothing that is new. -/
theorem eraseDups_flatMap_eraseDups {β : Type} [BEq β] [LawfulBEq β] (parts : α → List β)
    (items : List α) :
    (items.eraseDups.flatMap parts).eraseDups = (items.flatMap parts).eraseDups := by
  induction items using List.reverseRecOn with
  | nil => rfl
  | append_singleton items item ih =>
      by_cases known : item ∈ items
      · rw [eraseDups_append_of_subset fun other member => List.mem_singleton.1 member ▸ known, ih,
          List.flatMap_append, List.flatMap_singleton]
        refine (eraseDups_append_of_subset fun part member => ?_).symm
        exact List.mem_flatMap.2 ⟨item, known, member⟩
      · rw [eraseDups_concat_of_not_mem known, List.flatMap_append, List.flatMap_append,
          List.flatMap_singleton]
        exact eraseDups_append_congr ih

end Repetitions

/-- The id of a dashboard that is asked for. -/
def dashboardId? : RemoteKind × String → Option String
  | (.dashboard, id) => some id
  | (.query, _) => none

/-- The id of a query that is asked for. -/
def queryId? : RemoteKind × String → Option String
  | (.query, id) => some id
  | (.dashboard, _) => none

theorem mem_filterMap_dashboardId? {visits : List (RemoteKind × String)} {id : String} :
    id ∈ visits.filterMap dashboardId? ↔ (RemoteKind.dashboard, id) ∈ visits := by
  rw [List.mem_filterMap]
  constructor
  · rintro ⟨⟨_ | _, _⟩, member, same⟩
    · cases same
      exact member
    · cases same
  · exact fun member => ⟨_, member, rfl⟩

theorem mem_filterMap_queryId? {visits : List (RemoteKind × String)} {id : String} :
    id ∈ visits.filterMap queryId? ↔ (RemoteKind.query, id) ∈ visits := by
  rw [List.mem_filterMap]
  constructor
  · rintro ⟨⟨_ | _, _⟩, member, same⟩
    · cases same
    · cases same
      exact member
  · exact fun member => ⟨_, member, rfl⟩

theorem filterMap_dashboardId?_queries (ids : List String) :
    (ids.map fun id => (RemoteKind.query, id)).filterMap dashboardId? = [] := by
  rw [List.filterMap_map]
  exact List.filterMap_eq_nil_iff.2 fun _ _ => rfl

theorem filterMap_queryId?_queries (ids : List String) :
    (ids.map fun id => (RemoteKind.query, id)).filterMap queryId? = ids := by
  rw [List.filterMap_map]
  exact List.filterMap_some

/-! ## The inventory after some visits -/

/-- What an inventory and the events so far are after some visits. -/
structure Visited (fetcher : Fetcher) (visits : List (RemoteKind × String))
    (inventory : Inventory) (events : List Event) : Prop where
  dashboardIds : inventory.dashboards.map Entry.remoteId =
    (visits.filterMap dashboardId?).eraseDups
  queryIds : inventory.queries.map Entry.remoteId = (visits.filterMap queryId?).eraseDups
  dashboards : ∀ entry ∈ inventory.dashboards,
    (fetcher.dashboard entry.remoteId).result = .ok entry.object
  queries : ∀ entry ∈ inventory.queries, (fetcher.query entry.remoteId).result = .ok entry.object
  asked : askedIn events = visits.eraseDups.flatMap fun visit => askedIn (fetcher.told visit)

theorem visited_nil (fetcher : Fetcher) : Visited fetcher [] Inventory.empty [] where
  dashboardIds := rfl
  queryIds := rfl
  dashboards := fun _ member => absurd member (by simp [Inventory.empty])
  queries := fun _ member => absurd member (by simp [Inventory.empty])
  asked := rfl

namespace Visited

variable {fetcher : Fetcher} {visits : List (RemoteKind × String)} {inventory : Inventory}
  {events : List Event}

theorem hasDashboard_iff (visited : Visited fetcher visits inventory events) (id : String) :
    inventory.hasDashboard id = true ↔ (RemoteKind.dashboard, id) ∈ visits := by
  rw [← mem_filterMap_dashboardId?, ← List.mem_eraseDups, ← visited.dashboardIds,
    Inventory.hasDashboard, List.any_eq_true, List.mem_map]
  simp only [beq_iff_eq]

theorem hasQuery_iff (visited : Visited fetcher visits inventory events) (id : String) :
    inventory.hasQuery id = true ↔ (RemoteKind.query, id) ∈ visits := by
  rw [← mem_filterMap_queryId?, ← List.mem_eraseDups, ← visited.queryIds,
    Inventory.hasQuery, List.any_eq_true, List.mem_map]
  simp only [beq_iff_eq]

/-- Visits that were all made before change nothing. -/
theorem again (visited : Visited fetcher visits inventory events)
    {more : List (RemoteKind × String)} (known : ∀ visit ∈ more, visit ∈ visits)
    {later : List Event} (quiet : askedIn later = []) :
    Visited fetcher (visits ++ more) inventory (events ++ later) where
  dashboardIds := by
    rw [visited.dashboardIds, List.filterMap_append, eraseDups_append_of_subset]
    intro id member
    exact mem_filterMap_dashboardId?.2 (known _ (mem_filterMap_dashboardId?.1 member))
  queryIds := by
    rw [visited.queryIds, List.filterMap_append, eraseDups_append_of_subset]
    intro id member
    exact mem_filterMap_queryId?.2 (known _ (mem_filterMap_queryId?.1 member))
  dashboards := visited.dashboards
  queries := visited.queries
  asked := by
    rw [askedIn, List.filter_append, ← askedIn, ← askedIn, quiet, List.append_nil, visited.asked,
      eraseDups_append_of_subset known]

/-- What is asked for the first time is asked after all else. -/
theorem asked_concat (visited : Visited fetcher visits inventory events)
    {visit : RemoteKind × String} (new : visit ∉ visits) {named : Event}
    (quiet : named.asks = false) :
    askedIn (events ++ (fetcher.told visit ++ [named])) =
      (visits ++ [visit]).eraseDups.flatMap fun visit => askedIn (fetcher.told visit) := by
  have nothing : askedIn [named] = [] := by
    rw [askedIn, List.filter_cons, quiet]
    rfl
  rw [eraseDups_concat_of_not_mem new, List.flatMap_append, ← visited.asked,
    List.flatMap_singleton]
  simp only [askedIn, List.filter_append] at nothing ⊢
  rw [nothing, List.append_nil]

/-- A query that is added. -/
theorem addQuery (echoes : fetcher.Echoes) (visited : Visited fetcher visits inventory events)
    {id : String} (absent : inventory.hasQuery id = false) {query : Query}
    (fetched : (fetcher.query id).result = .ok query)
    (visualizations : List (Entry Visualization)) :
    Visited fetcher (visits ++ [(.query, id)])
      (inventory.addQuery (inventory.queryEntry query) visualizations)
      (events ++ ((fetcher.query id).events ++ [inventory.queryNamed query])) := by
  have same : query.id = id := echoes.query fetched
  have new : (RemoteKind.query, id) ∉ visits := by
    rw [← visited.hasQuery_iff, absent]
    exact Bool.false_ne_true
  constructor
  · rw [List.filterMap_append]
    exact visited.dashboardIds.trans (congrArg List.eraseDups (List.append_nil _).symm)
  · have added : (visits ++ [(RemoteKind.query, id)]).filterMap queryId? =
        visits.filterMap queryId? ++ [id] := List.filterMap_append
    rw [added, eraseDups_concat_of_not_mem fun member => new (mem_filterMap_queryId?.1 member),
      ← visited.queryIds, Inventory.addQuery, List.map_append]
    exact congrArg (fun id => inventory.queries.map Entry.remoteId ++ [id]) same
  · exact visited.dashboards
  · intro entry member
    rcases List.mem_append.1 member with old | added
    · exact visited.queries entry old
    · rw [List.mem_singleton.1 added]
      show (fetcher.query query.id).result = .ok query
      rw [same, fetched]
  · exact visited.asked_concat new rfl

/-- A dashboard that is added. -/
theorem addDashboard (echoes : fetcher.Echoes) (visited : Visited fetcher visits inventory events)
    {id : String} (absent : inventory.hasDashboard id = false) {dashboard : Dashboard}
    (fetched : (fetcher.dashboard id).result = .ok dashboard) (widgets : List (Entry Widget)) :
    Visited fetcher (visits ++ [(.dashboard, id)])
      (inventory.addDashboard (inventory.dashboardEntry dashboard) widgets)
      (events ++ ((fetcher.dashboard id).events ++ [inventory.dashboardNamed dashboard])) := by
  have same : dashboard.id = id := echoes.dashboard fetched
  have new : (RemoteKind.dashboard, id) ∉ visits := by
    rw [← visited.hasDashboard_iff, absent]
    exact Bool.false_ne_true
  constructor
  · have added : (visits ++ [(RemoteKind.dashboard, id)]).filterMap dashboardId? =
        visits.filterMap dashboardId? ++ [id] := List.filterMap_append
    rw [added,
      eraseDups_concat_of_not_mem fun member => new (mem_filterMap_dashboardId?.1 member),
      ← visited.dashboardIds, Inventory.addDashboard, List.map_append]
    exact congrArg (fun id => inventory.dashboards.map Entry.remoteId ++ [id]) same
  · rw [List.filterMap_append]
    exact visited.queryIds.trans (congrArg List.eraseDups (List.append_nil _).symm)
  · intro entry member
    rcases List.mem_append.1 member with old | added
    · exact visited.dashboards entry old
    · rw [List.mem_singleton.1 added]
      show (fetcher.dashboard dashboard.id).result = .ok dashboard
      rw [same, fetched]
  · exact visited.queries
  · exact visited.asked_concat new rfl

end Visited

end DashboardExport
