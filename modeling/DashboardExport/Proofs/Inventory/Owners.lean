import DashboardExport.Proofs.Inventory.Repetitions
import DashboardExport.Proofs.Inventory.Visits

/-!
# Parts and their owners

Which widgets are a dashboard's, and which visualizations a query's, is stored nowhere: a
lookup goes through all of them and picks those that are marked with the owner's id.  The
mark was put on when the part was loaded, whatever the payload said about its owner.

Where owners have different ids the lookups cut the collections into what was loaded with
each owner (`widgetEntries_widgetsFor`, `visualizationEntries_visualizationsFor`): put
together again, owner by owner, the pieces are the whole collection (`parts_partition`).
-/

set_option autoImplicit false

namespace DashboardExport

open Service

/-! ## Marked groups -/

/-- Groups that are marked with different keys are found again in their concatenation. -/
theorem map_filter_flatten {α β : Type} {parts : α → List β → Prop} {key : α → String}
    {mark : β → String}
    (marked : ∀ owner group, parts owner group → ∀ part ∈ group, mark part = key owner)
    {owners : List α} {groups : List (List β)} (matched : List.Forall₂ parts owners groups)
    (distinct : (owners.map key).Nodup) :
    owners.map (fun owner => groups.flatten.filter fun part => mark part == key owner) =
      groups := by
  induction matched with
  | nil => rfl
  | @cons owner group owners groups first later ih =>
      obtain ⟨fresh, distinct⟩ := List.nodup_cons.1 distinct
      have own : group.filter (fun part => mark part == key owner) = group := by
        rw [List.filter_eq_self]
        intro part member
        exact beq_iff_eq.2 (marked owner group first part member)
      have others : groups.flatten.filter (fun part => mark part == key owner) = [] := by
        rw [List.filter_eq_nil_iff]
        intro part member same
        obtain ⟨group', inside, member⟩ := List.mem_flatten.1 member
        obtain ⟨owner', listed, related⟩ := exists_mem_of_forall₂ later inside
        rw [beq_iff_eq, marked owner' group' related part member] at same
        exact fresh (List.mem_map.2 ⟨owner', listed, same⟩)
      rw [List.map_cons, List.flatten_cons, List.filter_append, own, others, List.append_nil]
      refine congrArg (group :: ·) (Eq.trans (List.map_congr_left ?_) (ih distinct))
      intro owner' listed
      have none : group.filter (fun part => mark part == key owner') = [] := by
        rw [List.filter_eq_nil_iff]
        intro part member same
        rw [beq_iff_eq, marked owner group first part member] at same
        exact fresh (List.mem_map.2 ⟨owner', listed, same.symm⟩)
      rw [List.filter_append, none, List.nil_append]

namespace Collected

variable {α β : Type} {parts : α → List β → Prop} {owners : List α} {collected : List β}
  {key : α → String} {mark : β → String}

/-- The parts that are marked with the key of an owner are those of the owner. -/
theorem filter_of_mem (whole : Collected parts owners collected)
    (marked : ∀ owner group, parts owner group → ∀ part ∈ group, mark part = key owner)
    (distinct : (owners.map key).Nodup) {owner : α} (member : owner ∈ owners) :
    parts owner (collected.filter fun part => mark part == key owner) := by
  obtain ⟨groups, matched, rfl⟩ := whole
  rw [← map_filter_flatten marked matched distinct, List.forall₂_map_right_iff,
    List.forall₂_same] at matched
  exact matched owner member

/-- Owner by owner, the marked parts are all parts. -/
theorem flatMap_filter (whole : Collected parts owners collected)
    (marked : ∀ owner group, parts owner group → ∀ part ∈ group, mark part = key owner)
    (distinct : (owners.map key).Nodup) :
    owners.flatMap (fun owner => collected.filter fun part => mark part == key owner) =
      collected := by
  obtain ⟨groups, matched, rfl⟩ := whole
  rw [List.flatMap_def, map_filter_flatten marked matched distinct]

end Collected

/-! ## Marks -/

/-- The widgets that join an inventory with a dashboard are marked with the dashboard's id. -/
theorem dashboardId_of_mem_widgetEntries {dashboard : Entry Dashboard}
    {entries : List (Entry Widget)} (read : widgetEntries dashboard = .ok entries)
    {entry : Entry Widget} (member : entry ∈ entries) :
    entry.object.dashboardId = dashboard.remoteId := by
  obtain ⟨_, _, made⟩ := exists_mem_of_forall₂ (widgetAt_of_widgetEntries read) member
  cases made with
  | read _ _ => rfl

/-- Every query stands in the inventory under its own id. -/
def QueriesByOwnId (inventory : Inventory) : Prop :=
  ∀ query ∈ inventory.queries, query.object.id = query.remoteId

theorem queriesByOwnId_of_growth {before after : Inventory}
    (growth : Inventory.Growth before after) (own : QueriesByOwnId before) :
    QueriesByOwnId after := by
  cases growth with
  | dashboard _ _ => exact own
  | query query _ =>
      intro entry member
      rcases List.mem_append.1 member with old | new
      · exact own entry old
      · rw [List.mem_singleton.1 new]
        rfl

theorem queriesByOwnId_reached (calls : List LoadCall) :
    QueriesByOwnId (Inventory.reached calls) :=
  Inventory.reached_induction (fun _ member => absurd member List.not_mem_nil)
    queriesByOwnId_of_growth calls

/-- A service that echoes ids does so for the answers that can be loaded. -/
theorem Service.Fetcher.Echoes.decoded {fetcher : Fetcher} (echoes : fetcher.Echoes) :
    fetcher.EchoesDecoded where
  dashboard := fun fetched _ => echoes.dashboard fetched
  query := fun fetched _ => echoes.query fetched

/-- Services that echo ids lead to inventories with different ids. -/
theorem idsApart_reached {calls : List LoadCall} (echoes : ∀ call ∈ calls, call.fetcher.Echoes) :
    (Inventory.reached calls).IdsApart := by
  refine Inventory.idsApart_foldl_afterCall ?_ ⟨List.nodup_nil, List.nodup_nil⟩
  intro call member
  exact (echoes call member).decoded

/-! ## Lookups -/

section Lookups

variable {calls : List LoadCall} (echoes : ∀ call ∈ calls, call.fetcher.Echoes)
include echoes

/-- **The lookup of a dashboard's widgets finds what was loaded with it.** -/
theorem widgetEntries_widgetsFor {dashboard : Entry Dashboard}
    (member : dashboard ∈ (Inventory.reached calls).dashboards) :
    widgetEntries dashboard = .ok ((Inventory.reached calls).widgetsFor dashboard) := by
  refine (whole_reached calls).widgets.filter_of_mem ?_ (idsApart_reached echoes).dashboards member
  intro _ _ read _ inside
  exact dashboardId_of_mem_widgetEntries read inside

theorem objectIds_nodup :
    ((Inventory.reached calls).queries.map fun query => query.object.id).Nodup := by
  rw [List.map_congr_left (queriesByOwnId_reached calls)]
  exact (idsApart_reached echoes).queries

/-- **The lookup of a query's visualizations finds what was loaded with it.** -/
theorem visualizationEntries_visualizationsFor {query : Entry Query}
    (member : query ∈ (Inventory.reached calls).queries) :
    visualizationEntries query = .ok ((Inventory.reached calls).visualizationsFor query) := by
  rw [Inventory.visualizationsFor, ← queriesByOwnId_reached calls query member]
  refine (whole_reached calls).visualizations.filter_of_mem ?_ (objectIds_nodup echoes) member
  intro _ _ read _ inside
  exact queryId_of_mem_visualizationEntries read inside

/-- **Everything that was loaded is found with exactly one owner, and in order.**  The calls may
fail or not.  If the services echo ids, the widgets of the dashboards, one dashboard after the
other, are all widgets, and the visualizations of the queries are all visualizations. -/
theorem parts_partition :
    (Inventory.reached calls).dashboards.flatMap (Inventory.reached calls).widgetsFor =
        (Inventory.reached calls).widgets ∧
      (Inventory.reached calls).queries.flatMap (Inventory.reached calls).visualizationsFor =
        (Inventory.reached calls).visualizations := by
  constructor
  · refine (whole_reached calls).widgets.flatMap_filter ?_ (idsApart_reached echoes).dashboards
    intro _ _ read _ inside
    exact dashboardId_of_mem_widgetEntries read inside
  · have found : (Inventory.reached calls).queries.flatMap (fun query =>
        (Inventory.reached calls).visualizations.filter fun entry =>
          entry.object.queryId == query.object.id) = (Inventory.reached calls).visualizations := by
      refine (whole_reached calls).visualizations.flatMap_filter ?_ (objectIds_nodup echoes)
      intro _ _ read _ inside
      exact queryId_of_mem_visualizationEntries read inside
    rw [← found]
    refine List.flatMap_congr ?_
    intro query member
    rw [Inventory.visualizationsFor, ← queriesByOwnId_reached calls query member]

end Lookups

/-- Two dashboards and a query whose parts say that they belong elsewhere. -/
def strayingService : Fetcher :=
  servingFetcher
    [{ id := "a", name := "KPIs", tags := [],
        widgets := [.obj [("id", .int 1), ("dashboard_id", .str "b")],
          .obj [("id", .int 2), ("visualization", .obj [("id", .int 11), ("type", .str "chart"),
            ("query", .obj [("id", .str "q")])])]] },
      { id := "b", name := "KPIs", tags := [],
        widgets := [.obj [("id", .int 3), ("dashboard_id", .str "a")]] }]
    [{ id := "q", dataSourceId := "", name := "Sales", description := none, text := "",
        schedule := none, options := ⟨[]⟩, tags := [],
        visualizations := [.obj [("id", .int 11), ("type", .str "chart"),
          ("query_id", .str "r")]] }]

/-- Both dashboards are loaded, and between them there is a call that fails. -/
def strayingCalls : List LoadCall :=
  [(.dashboard, "a"), (.query, "r"), (.dashboard, "b")].map fun asked =>
    ⟨strayingService, asked.1, asked.2⟩

theorem parts_partition_straying :
    (∀ call ∈ strayingCalls, call.fetcher.Echoes) ∧
      (Inventory.load strayingService .query "r" Inventory.empty).result.toOption = none ∧
      (Inventory.reached strayingCalls).widgets.map (fun entry =>
        (entry.resourceName, entry.object.dashboardId)) =
          [("kpis_0", "a"), ("kpis_1", "a"), ("kpis_1_0", "b")] ∧
      (Inventory.reached strayingCalls).visualizations.map (fun entry =>
        (entry.resourceName, entry.object.queryId)) = [("sales_chart", "q")] ∧
      (Inventory.reached strayingCalls).dashboards.flatMap
          (Inventory.reached strayingCalls).widgetsFor =
        (Inventory.reached strayingCalls).widgets ∧
      (Inventory.reached strayingCalls).queries.flatMap
          (Inventory.reached strayingCalls).visualizationsFor =
        (Inventory.reached strayingCalls).visualizations := by
  have echoes : ∀ call ∈ strayingCalls, call.fetcher.Echoes := by
    intro call member
    obtain ⟨_, _, rfl⟩ := List.mem_map.1 member
    exact servingFetcher_echoes _ _
  exact ⟨echoes, by decide +kernel, by decide +kernel, by decide +kernel, parts_partition echoes⟩

end DashboardExport
