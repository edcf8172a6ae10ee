import DashboardExport.Proofs.Inventory.Parts
import Mathlib.Data.List.Pairwise

/-!
# Resource names in a reached inventory

Dashboards and queries get fresh names, each among its own kind.  A widget is named
for its dashboard and its position on it, and a visualization for its query and its
label; neither is compared with other names.

For widgets that is enough: dashboards have different names, and the position can be
read back from the end of a widget's name (`resourceNames_nodup`).  For visualizations
it is not, because a label may hold underscores.  Their names are different exactly
when the labels of each query are, and no label continues the name of one query to a
name that another query has as well (`visualizationNames_nodup_iff`).
-/

set_option autoImplicit false

namespace DashboardExport

open Naming Service

/-! ## Names of the parts -/

/-- The types of a query's visualizations, in lower case; none if one of them does not decode. -/
def Query.visualizationTypes (query : Query) : List String :=
  match ownVisualizations query with
  | .ok visualizations => visualizations.map Visualization.lowerType
  | .error _ => []

theorem map_resourceName_zipWith (visualizations : List Visualization) :
    ∀ names : List String, names.length = visualizations.length →
      (visualizations.zipWith (fun visualization name =>
        (⟨visualization.id, name, visualization⟩ : Entry Visualization)) names).map
          Entry.resourceName = names := by
  induction visualizations with
  | nil =>
      intro names enough
      rw [List.eq_nil_of_length_eq_zero enough]
      rfl
  | cons visualization rest ih =>
      intro names enough
      cases names with
      | nil => exact absurd enough (by simp)
      | cons name names =>
          rw [List.zipWith_cons_cons, List.map_cons, ih names (Nat.succ.inj enough)]

/-- The visualizations of a query are named for the query and for their labels. -/
theorem resourceNames_of_visualizationEntries {query : Entry Query}
    {entries : List (Entry Visualization)} (read : visualizationEntries query = .ok entries) :
    entries.map Entry.resourceName = (labels query.object.visualizationTypes).map
      fun label => query.resourceName ++ "_" ++ label := by
  obtain ⟨visualizations, owned, read⟩ := except_bind_eq_ok_iff.1 read
  cases read
  rw [map_resourceName_zipWith, visualizationNames_eq_map_labels, Query.visualizationTypes, owned]
  rw [length_visualizationNames, List.length_map]

/-- The widgets of a dashboard are named for the dashboard and for their positions. -/
theorem resourceNames_of_widgetEntries {dashboard : Entry Dashboard}
    {entries : List (Entry Widget)} (read : widgetEntries dashboard = .ok entries) :
    entries.map Entry.resourceName =
      (List.range dashboard.object.widgets.length).map (numbered dashboard.resourceName) := by
  have named : ∀ (payloads : List (Json × Nat)) (entries : List (Entry Widget)),
      List.Forall₂ (WidgetAt dashboard) payloads entries →
      entries.map Entry.resourceName =
        payloads.map fun payload => numbered dashboard.resourceName payload.2 := by
    intro payloads entries related
    induction related with
    | nil => rfl
    | cons first _ ih =>
        cases first with
        | read _ _ => rw [List.map_cons, List.map_cons, ih]; rfl
  rw [named _ _ (widgetAt_of_widgetEntries read), List.range_eq_range', ← List.zipIdx_map_snd,
    List.map_map]
  rfl

/-! ## Dashboards and queries -/

/-- Adding a fresh name keeps names different. -/
theorem nodup_concat_fresh {names : List String} (distinct : names.Nodup) (base : String) :
    (names ++ [fresh base names]).Nodup :=
  List.nodup_append.2 ⟨distinct, List.nodup_singleton _, fun _ member _ fresh_eq same =>
    fresh_not_mem base names (List.mem_singleton.1 fresh_eq ▸ same ▸ member)⟩

/-- The names of an inventory's dashboards are different, and so are those of its queries. -/
structure OwnersApart (inventory : Inventory) : Prop where
  dashboards : (inventory.dashboards.map Entry.resourceName).Nodup
  queries : (inventory.queries.map Entry.resourceName).Nodup

theorem ownersApart_of_growth {before after : Inventory}
    (growth : Inventory.Growth before after) (apart : OwnersApart before) : OwnersApart after := by
  cases growth with
  | query query _ =>
      refine ⟨apart.dashboards, ?_⟩
      rw [Inventory.addQuery, List.map_append]
      exact nodup_concat_fresh apart.queries _
  | dashboard dashboard _ =>
      refine ⟨?_, apart.queries⟩
      rw [Inventory.addDashboard, List.map_append]
      exact nodup_concat_fresh apart.dashboards _

theorem ownersApart_reached (calls : List LoadCall) : OwnersApart (Inventory.reached calls) :=
  Inventory.reached_induction ⟨List.nodup_nil, List.nodup_nil⟩ ownersApart_of_growth calls

/-! ## Widgets -/

/-- Widgets have different names when their dashboards have. -/
theorem widgetNames_nodup {dashboards : List (Entry Dashboard)}
    (distinct : (dashboards.map Entry.resourceName).Nodup) :
    (dashboards.flatMap fun dashboard =>
      (List.range dashboard.object.widgets.length).map
        (numbered dashboard.resourceName)).Nodup := by
  refine List.nodup_flatMap.2 ⟨fun dashboard _ => ?_, ?_⟩
  · exact List.nodup_range.map fun _ _ same => (numbered_eq_numbered_iff.1 same).2
  · refine (List.pairwise_map.1 distinct).imp ?_
    intro _ _ differ name member member'
    obtain ⟨position, _, rfl⟩ := List.mem_map.1 member
    obtain ⟨position', _, same⟩ := List.mem_map.1 member'
    exact differ (numbered_eq_numbered_iff.1 same).1.symm

/-- **Dashboards, queries and widgets of a reached inventory have different names**, each among its
own kind. -/
theorem resourceNames_nodup (calls : List LoadCall) :
    ((Inventory.reached calls).dashboards.map Entry.resourceName).Nodup ∧
      ((Inventory.reached calls).queries.map Entry.resourceName).Nodup ∧
      ((Inventory.reached calls).widgets.map Entry.resourceName).Nodup := by
  have apart := ownersApart_reached calls
  refine ⟨apart.dashboards, apart.queries, ?_⟩
  rw [(whole_reached calls).widgets.map_eq_flatMap
    fun _ _ read => resourceNames_of_widgetEntries read]
  exact widgetNames_nodup apart.dashboards

/-! ## Visualizations -/

/-- No two visualizations of these queries come to the same name.  The second condition is about a
query whose name goes on from that of another one, with `middle` between them: what the other one's
labels go on with is no label of the longer name. -/
structure LabelsApart (queries : List (Entry Query)) : Prop where
  within : ∀ query ∈ queries, ¬ Ambiguous query.object.visualizationTypes
  across : ∀ query ∈ queries, ∀ longer ∈ queries, ∀ middle,
    longer.resourceName = query.resourceName ++ "_" ++ middle →
      ∀ label ∈ labels longer.object.visualizationTypes,
        middle ++ "_" ++ label ∉ labels query.object.visualizationTypes

/-- The names of the visualizations of queries with different names. -/
theorem labelNames_nodup_iff {queries : List (Entry Query)}
    (distinct : (queries.map Entry.resourceName).Nodup) :
    (queries.flatMap fun query => (labels query.object.visualizationTypes).map
      fun label => query.resourceName ++ "_" ++ label).Nodup ↔ LabelsApart queries := by
  rw [List.nodup_flatMap]
  constructor
  · rintro ⟨within, across⟩
    refine ⟨fun query member => ?_, ?_⟩
    · exact (labels_nodup_iff _).1 ((List.nodup_map_iff (joined_injective _)).1
        (within query member))
    · intro query member longer member' middle goesOn label labelled continued
      have differ : query ≠ longer := by
        rintro rfl
        exact ne_joined _ _ goesOn
      have : Std.Symm (Function.onFun List.Disjoint fun query : Entry Query =>
          (labels query.object.visualizationTypes).map
            fun label => query.resourceName ++ "_" ++ label) :=
        ⟨fun _ _ disjoint => disjoint.symm⟩
      refine across.forall member member' differ (List.mem_map_of_mem continued)
        (List.mem_map.2 ⟨label, labelled, ?_⟩)
      simp only [goesOn, String.append_assoc]
  · rintro ⟨within, across⟩
    refine ⟨fun query member => ?_, ?_⟩
    · exact ((labels_nodup_iff _).2 (within query member)).map (joined_injective _)
    · refine (List.pairwise_map.1 distinct).imp_of_mem
        fun {query query'} member member' differ name named named' => ?_
      obtain ⟨label, labelled, rfl⟩ := List.mem_map.1 named
      obtain ⟨label', labelled', same⟩ := List.mem_map.1 named'
      rcases joined_eq_joined same.symm differ with
        ⟨middle, goesOn, rfl⟩ | ⟨middle, goesOn, rfl⟩
      · exact across query member query' member' middle goesOn label' labelled' labelled
      · exact across query' member' query member middle goesOn label labelled labelled'

/-- **When the visualizations of a reached inventory have different names.** -/
theorem visualizationNames_nodup_iff (calls : List LoadCall) :
    ((Inventory.reached calls).visualizations.map Entry.resourceName).Nodup ↔
      LabelsApart (Inventory.reached calls).queries := by
  rw [(whole_reached calls).visualizations.map_eq_flatMap
    fun _ _ read => resourceNames_of_visualizationEntries read]
  exact labelNames_nodup_iff (ownersApart_reached calls).queries

/-- Two queries, `Sales` with one visualization of the type `region_chart`, and `Sales region` with
one of the type `chart`. -/
def meetingQueries : List Query :=
  [{ id := "1", dataSourceId := "", name := "Sales", description := none, text := "",
      schedule := none, options := ⟨[]⟩, tags := [],
      visualizations := [.obj [("id", .int 11), ("type", .str "region_chart")]] },
    { id := "2", dataSourceId := "", name := "Sales region", description := none, text := "",
      schedule := none, options := ⟨[]⟩, tags := [],
      visualizations := [.obj [("id", .int 21), ("type", .str "chart")]] }]

/-- Both visualizations are named `sales_region_chart`. -/
theorem visualizationNames_meet :
    ¬ ∀ calls : List LoadCall,
      ((Inventory.reached calls).visualizations.map Entry.resourceName).Nodup := by
  intro distinct
  have apart := distinct [⟨servingFetcher [] meetingQueries, .query, "1"⟩,
    ⟨servingFetcher [] meetingQueries, .query, "2"⟩]
  exact absurd apart (by decide +kernel)

end DashboardExport
