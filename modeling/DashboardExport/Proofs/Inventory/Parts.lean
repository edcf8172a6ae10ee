import DashboardExport.Proofs.Fallible
import DashboardExport.Proofs.Inventory.Growth
import DashboardExport.Proofs.Inventory.VisualizationNames

/-!
# The parts of loaded objects

The widgets of a dashboard and the visualizations of a query are decoded payload by
payload: the entries are as many as the payloads and in their order, the one of a
payload holding what the payload decodes to (`WidgetAt`, `VisualizationOf`).

In a reached inventory every dashboard and every query has all its parts, and nothing
else is there: the widgets are those of the dashboards, one dashboard after the other,
and the visualizations those of the queries (`whole_reached`).
-/

set_option autoImplicit false

namespace DashboardExport

open Decoding

/-! ## Widgets -/

/-- The visualization a widget is linked to: the one it embeds, or else the one that it names. -/
inductive LinkedTo (widget : Widget) : Option String → Prop where
  | named (absent : present? widget.visualization = none) :
      LinkedTo widget widget.visualizationId
  | embedded {payload : Json} {visualization : Visualization}
      (shown : present? widget.visualization = some payload)
      (decoded : Visualization.decode payload = .value visualization) :
      LinkedTo widget (some visualization.id)

/-- The entry of a payload that stands at a position on a dashboard. -/
inductive WidgetAt (dashboard : Entry Dashboard) : Json × Nat → Entry Widget → Prop where
  | read {payload : Json} {position : Nat} {widget : Widget} {link : Option String}
      (decoded : Widget.decode payload = .value widget) (linked : LinkedTo widget link) :
      WidgetAt dashboard (payload, position)
        { remoteId := widget.id
          resourceName := dashboard.resourceName ++ "_" ++ toString position
          object :=
            { widget with dashboardId := dashboard.remoteId, visualizationId := link } }

theorem decodeVisualization_eq_ok_iff {payload : Json} {visualization : Visualization} :
    decodeVisualization payload = .ok visualization ↔
      Visualization.decode payload = .value visualization :=
  Refusal.ofOutcome_eq_ok_iff

theorem widgetAt_of_widgetEntry {dashboard : Entry Dashboard} {position : Nat} {payload : Json}
    {entry : Entry Widget} (read : widgetEntry dashboard position payload = .ok entry) :
    WidgetAt dashboard (payload, position) entry := by
  obtain ⟨widget, decoded, read⟩ := except_bind_eq_ok_iff.1 read
  have widgetDecoded := Refusal.ofOutcome_eq_ok_iff.1 decoded
  cases shown : present? widget.visualization with
  | none =>
      rw [shown] at read
      cases read
      exact .read widgetDecoded (.named shown)
  | some embedded =>
      rw [shown] at read
      obtain ⟨visualization, visualizationDecoded, read⟩ := except_bind_eq_ok_iff.1 read
      cases read
      exact .read widgetDecoded
        (.embedded shown (decodeVisualization_eq_ok_iff.1 visualizationDecoded))

theorem widgetAt_of_widgetEntriesFrom {dashboard : Entry Dashboard} {payloads : List Json}
    {position : Nat} {entries : List (Entry Widget)}
    (read : widgetEntriesFrom dashboard position payloads = .ok entries) :
    List.Forall₂ (WidgetAt dashboard) (payloads.zipIdx position) entries := by
  induction payloads generalizing position entries with
  | nil =>
      cases read
      exact .nil
  | cons payload rest ih =>
      obtain ⟨entry, first, read⟩ := except_bind_eq_ok_iff.1 read
      obtain ⟨others, later, read⟩ := except_bind_eq_ok_iff.1 read
      cases read
      exact .cons (widgetAt_of_widgetEntry first) (ih later)

/-- **Every payload of a dashboard has its entry, in order.** -/
theorem widgetAt_of_widgetEntries {dashboard : Entry Dashboard} {entries : List (Entry Widget)}
    (read : widgetEntries dashboard = .ok entries) :
    List.Forall₂ (WidgetAt dashboard) dashboard.object.widgets.zipIdx entries :=
  widgetAt_of_widgetEntriesFrom read

/-- Every payload of a dashboard is a widget, linked to what it shows. -/
def Dashboard.Decodes (dashboard : Dashboard) : Prop :=
  ∀ payload ∈ dashboard.widgets, ∃ widget link,
    Widget.decode payload = .value widget ∧ LinkedTo widget link

theorem widgetEntry_of_widgetAt {dashboard : Entry Dashboard} {position : Nat} {payload : Json}
    {entry : Entry Widget} (placed : WidgetAt dashboard (payload, position) entry) :
    widgetEntry dashboard position payload = .ok entry := by
  cases placed with
  | @read _ _ widget link decoded linked =>
      refine except_bind_eq_ok_iff.2 ⟨widget, Refusal.ofOutcome_eq_ok_iff.2 decoded, ?_⟩
      cases linked with
      | named absent =>
          rw [absent]
          rfl
      | embedded shown visualizationDecoded =>
          rw [shown]
          exact except_bind_eq_ok_iff.2
            ⟨_, decodeVisualization_eq_ok_iff.2 visualizationDecoded, rfl⟩

theorem exists_widgetEntriesFrom_iff (dashboard : Entry Dashboard) (payloads : List Json)
    (position : Nat) :
    (∃ entries, widgetEntriesFrom dashboard position payloads = .ok entries) ↔
      ∀ payload ∈ payloads, ∃ widget link,
        Widget.decode payload = .value widget ∧ LinkedTo widget link := by
  induction payloads generalizing position with
  | nil => exact ⟨fun _ _ member => absurd member List.not_mem_nil, fun _ => ⟨[], rfl⟩⟩
  | cons payload rest ih =>
      constructor
      · rintro ⟨_, read⟩ other member
        obtain ⟨entry, first, read⟩ := except_bind_eq_ok_iff.1 read
        obtain ⟨others, later, _⟩ := except_bind_eq_ok_iff.1 read
        rcases List.mem_cons.1 member with rfl | inRest
        · cases widgetAt_of_widgetEntry first with
          | read decoded linked => exact ⟨_, _, decoded, linked⟩
        · exact (ih (position + 1)).1 ⟨others, later⟩ other inRest
      · intro decodes
        obtain ⟨widget, link, decoded, linked⟩ := decodes payload List.mem_cons_self
        obtain ⟨entries, later⟩ := (ih (position + 1)).2 fun other member =>
          decodes other (List.mem_cons_of_mem payload member)
        exact ⟨_, except_bind_eq_ok_iff.2 ⟨_, widgetEntry_of_widgetAt (.read decoded linked),
          except_bind_eq_ok_iff.2 ⟨entries, later, rfl⟩⟩⟩

/-- **A dashboard has entries for its widgets when all of them decode.** -/
theorem exists_widgetEntries_iff {dashboard : Entry Dashboard} :
    (∃ entries, widgetEntries dashboard = .ok entries) ↔ dashboard.object.Decodes :=
  exists_widgetEntriesFrom_iff dashboard dashboard.object.widgets 0

/-! ## Visualizations -/

/-- The visualization of a payload, marked with the query that owns it. -/
inductive OwnedBy (queryId : String) : Json → Visualization → Prop where
  | read {payload : Json} {visualization : Visualization}
      (decoded : Visualization.decode payload = .value visualization) :
      OwnedBy queryId payload { visualization with queryId }

theorem ownedBy_of_ownVisualizations {query : Query} {visualizations : List Visualization}
    (read : ownVisualizations query = .ok visualizations) :
    List.Forall₂ (OwnedBy query.id) query.visualizations visualizations := by
  refine (mapM_eq_ok_iff.1 read).imp ?_
  intro payload owned marked
  obtain ⟨visualization, decoded, marked⟩ := except_bind_eq_ok_iff.1 marked
  cases marked
  exact .read (decodeVisualization_eq_ok_iff.1 decoded)

/-- The entry of a payload that is a visualization of a query. -/
inductive VisualizationOf (query : Entry Query) : Json → Entry Visualization → Prop where
  | read {payload : Json} {visualization : Visualization} (name : String)
      (owned : OwnedBy query.object.id payload visualization) :
      VisualizationOf query payload ⟨visualization.id, name, visualization⟩

theorem visualizationOf_of_ownedBy {query : Entry Query} {payloads : List Json}
    {visualizations : List Visualization}
    (owned : List.Forall₂ (OwnedBy query.object.id) payloads visualizations) :
    ∀ names : List String, names.length = visualizations.length →
      List.Forall₂ (VisualizationOf query) payloads
        (visualizations.zipWith (fun visualization name => ⟨visualization.id, name, visualization⟩)
          names) := by
  induction owned with
  | nil => exact fun _ _ => .nil
  | cons first _ ih =>
      intro names enough
      cases names with
      | nil => exact absurd enough (by simp)
      | cons name names =>
          exact .cons (.read name first) (ih names (Nat.succ.inj enough))

/-- **Every payload of a query has its entry, in order.** -/
theorem visualizationOf_of_visualizationEntries {query : Entry Query}
    {entries : List (Entry Visualization)} (read : visualizationEntries query = .ok entries) :
    List.Forall₂ (VisualizationOf query) query.object.visualizations entries := by
  obtain ⟨visualizations, owned, read⟩ := except_bind_eq_ok_iff.1 read
  cases read
  refine visualizationOf_of_ownedBy (ownedBy_of_ownVisualizations owned) _ ?_
  rw [length_visualizationNames, List.length_map]

/-- Every payload of a query is a visualization. -/
def Query.Decodes (query : Query) : Prop :=
  ∀ payload ∈ query.visualizations, ∃ visualization,
    Visualization.decode payload = .value visualization

/-- **A query has entries for its visualizations when all of them decode.** -/
theorem exists_visualizationEntries_iff {query : Entry Query} :
    (∃ entries, visualizationEntries query = .ok entries) ↔ query.object.Decodes := by
  have owned : (∃ visualizations, ownVisualizations query.object = .ok visualizations) ↔
      query.object.Decodes := by
    refine exists_mapM_eq_ok_iff.trans (forall₂_congr fun payload _ => ?_)
    constructor
    · rintro ⟨_, marked⟩
      obtain ⟨visualization, decoded, _⟩ := except_bind_eq_ok_iff.1 marked
      exact ⟨visualization, decodeVisualization_eq_ok_iff.1 decoded⟩
    · rintro ⟨visualization, decoded⟩
      exact ⟨_, except_bind_eq_ok_iff.2
        ⟨visualization, decodeVisualization_eq_ok_iff.2 decoded, rfl⟩⟩
  rw [← owned]
  constructor
  · rintro ⟨_, read⟩
    obtain ⟨visualizations, own, _⟩ := except_bind_eq_ok_iff.1 read
    exact ⟨visualizations, own⟩
  · rintro ⟨visualizations, own⟩
    exact ⟨_, except_bind_eq_ok_iff.2 ⟨visualizations, own, rfl⟩⟩

/-! ## Collections -/

/-- A collection holds the parts of its owners, one owner after the other. -/
def Collected {α β : Type} (parts : α → List β → Prop) (owners : List α) (collected : List β) :
    Prop :=
  ∃ groups, List.Forall₂ parts owners groups ∧ collected = groups.flatten

namespace Collected

variable {α β γ : Type} {parts : α → List β → Prop} {owners : List α} {collected : List β}

theorem nil : Collected parts [] [] := ⟨[], .nil, rfl⟩

/-- The parts of another owner come last. -/
theorem concat (before : Collected parts owners collected) {owner : α} {group : List β}
    (added : parts owner group) : Collected parts (owners ++ [owner]) (collected ++ group) := by
  obtain ⟨groups, related, rfl⟩ := before
  refine ⟨groups ++ [group], List.rel_append related (.cons added .nil), ?_⟩
  rw [List.flatten_append, List.flatten_singleton]

theorem imp {others : α → List β → Prop} (weaker : ∀ owner group, parts owner group →
    others owner group) (whole : Collected parts owners collected) :
    Collected others owners collected := by
  obtain ⟨groups, related, same⟩ := whole
  exact ⟨groups, related.imp weaker, same⟩

/-- What is read off the parts can be read off the owners, if it can for each owner. -/
theorem map_eq_flatMap {view : β → γ} {ofOwner : α → List γ}
    (agree : ∀ owner group, parts owner group → group.map view = ofOwner owner)
    (whole : Collected parts owners collected) :
    collected.map view = owners.flatMap ofOwner := by
  obtain ⟨groups, related, rfl⟩ := whole
  induction related with
  | nil => rfl
  | cons first _ ih =>
      rw [List.flatten_cons, List.map_append, List.flatMap_cons, ih, agree _ _ first]

end Collected

/-- An inventory whose widgets are those of its dashboards, and whose visualizations are those of
its queries, all of them and in order. -/
structure Whole (inventory : Inventory) : Prop where
  widgets : Collected (fun dashboard widgets => widgetEntries dashboard = .ok widgets)
    inventory.dashboards inventory.widgets
  visualizations :
    Collected (fun query visualizations => visualizationEntries query = .ok visualizations)
      inventory.queries inventory.visualizations

theorem whole_empty : Whole Inventory.empty := ⟨Collected.nil, Collected.nil⟩

theorem whole_of_growth {before after : Inventory} (growth : Inventory.Growth before after)
    (whole : Whole before) : Whole after := by
  cases growth with
  | query query decoded => exact ⟨whole.widgets, whole.visualizations.concat decoded⟩
  | dashboard dashboard decoded => exact ⟨whole.widgets.concat decoded, whole.visualizations⟩

/-- **A reached inventory has all the parts of its objects and nothing else.** -/
theorem whole_reached (calls : List LoadCall) : Whole (Inventory.reached calls) :=
  Inventory.reached_induction whole_empty whole_of_growth calls

/-! ## Owners -/

/-- Every visualization belongs to a query of the inventory. -/
def Owned (inventory : Inventory) : Prop :=
  ∀ entry ∈ inventory.visualizations, ∃ query ∈ inventory.queries,
    entry ∈ inventory.visualizationsFor query

theorem owned_iff {inventory : Inventory} :
    Owned inventory ↔ ∀ entry ∈ inventory.visualizations, ∃ query ∈ inventory.queries,
      entry.object.queryId = query.remoteId := by
  refine forall₂_congr fun entry member => exists_congr fun query => and_congr_right fun _ => ?_
  rw [Inventory.visualizationsFor, List.mem_filter, beq_iff_eq]
  exact and_iff_right member

/-- The visualizations that join an inventory with a query are marked with the query's id. -/
theorem queryId_of_mem_visualizationEntries {query : Entry Query}
    {entries : List (Entry Visualization)} (read : visualizationEntries query = .ok entries)
    {entry : Entry Visualization} (member : entry ∈ entries) :
    entry.object.queryId = query.object.id := by
  obtain ⟨_, _, made⟩ := exists_mem_of_forall₂ (visualizationOf_of_visualizationEntries read) member
  cases made with
  | read _ owned =>
      cases owned with
      | read _ => rfl

theorem owned_of_growth {before after : Inventory} (growth : Inventory.Growth before after)
    (owned : Owned before) : Owned after := by
  rw [owned_iff] at owned ⊢
  cases growth with
  | query query decoded =>
      intro entry member
      rcases List.mem_append.1 member with old | new
      · obtain ⟨owner, inside, same⟩ := owned entry old
        exact ⟨owner, List.mem_append_left _ inside, same⟩
      · refine ⟨before.queryEntry query, List.mem_append_right _ (List.mem_singleton_self _), ?_⟩
        exact queryId_of_mem_visualizationEntries decoded new
  | dashboard dashboard decoded => exact owned

/-- **In a reached inventory every visualization is one of a loaded query's.** -/
theorem owned_reached (calls : List LoadCall) : Owned (Inventory.reached calls) :=
  Inventory.reached_induction (fun _ member => absurd member List.not_mem_nil) owned_of_growth calls

end DashboardExport
