import DashboardExport.Proofs.Inventory.Parts
import DashboardExport.Proofs.Inventory.Tokens
import DashboardExport.Proofs.Rendering.References

/-!
# Closed references

A widget finds what it shows by an id among all visualizations, and the file of a query
holds the visualizations that are marked with the id of the query.  In a reached inventory
the two agree: the visualization that a widget refers to is one of a loaded query's, and
the file of that query has its header (`references_closed`).

Texts are written as they are, and the name of a visualization ends in the type that the
service gave it.  A text that closes its here document, or a type with a line end in it,
can bring in references of its own, which lead nowhere (`references_dangle`).
-/

set_option autoImplicit false

namespace DashboardExport.Rendering

open Hcl (Item Writer)
open Text (Uncut)

/-! ## Held visualizations -/

/-- The file of a loaded query has the first line of the resource of a visualization, and it is a
configuration line if the query stays where it is written. -/
def Held (inventory : Inventory) (entry : Entry Visualization) : Prop :=
  ∃ query ∈ inventory.queries, entry ∈ inventory.visualizationsFor query ∧
    ∀ (skipDefaults : Bool) (file : String),
      renderQuery skipDefaults inventory query = .ok file →
        headerLine visualizationResource entry.resourceName ∈ linesOf file ∧
          (ContainedQuery inventory query →
            headerLine visualizationResource entry.resourceName ∈
              configurationLines none (linesOf file))

theorem mem_of_findVisualization {inventory : Inventory} {id : String}
    {shown : Entry Visualization} (found : inventory.findVisualization id = some shown) :
    shown ∈ inventory.visualizations ∧ shown.remoteId = id := by
  have sameId := List.find?_some found
  exact ⟨List.mem_of_find?_eq_some found, beq_iff_eq.1 sameId⟩

/-- The first line of a resource is a line of a file with that resource. -/
theorem headerLine_mem_linesOf {type name : String} (typed : Uncut (· == '\n') type.toList)
    (whole : '\n' ∉ name.toList) (before contents after : List Item) :
    headerLine type name ∈
      linesOf (Item.render (before ++ resource type name contents :: after)) := by
  have header : SettingLine (headerLine type name) :=
    settingLine_header (uncut_header type whole typed)
  have first : headerLine type name ∈ Item.added 0 [resource type name contents] := by
    rw [resource, Item.added_block]
    exact List.mem_append_left _
      (List.mem_singleton.2 (Writer.lineEntry_zero (headerLine type name)).symm)
  have entry : headerLine type name ∈
      Item.added 0 (before ++ resource type name contents :: after) := by
    rw [Item.added_append, Item.added_cons]
    exact List.mem_append_right _ (List.mem_append_left _ first)
  rw [linesOf_render_eq (List.ne_nil_of_mem entry)]
  refine List.mem_append_left _ (List.mem_flatMap.2 ⟨_, entry, ?_⟩)
  rw [header.linesOf_eq]
  exact List.mem_cons_self

theorem not_mem_of_isToken {name : String} (token : Naming.IsToken name) : '\n' ∉ name.toList :=
  fun member => absurd (token '\n' member) (by decide)

/-- **A visualization is held by the file of its query.** -/
theorem held_of_owned {inventory : Inventory} (owned : Owned inventory)
    (owners : OwnerTokens inventory) {entry : Entry Visualization}
    (member : entry ∈ inventory.visualizations) (whole : '\n' ∉ entry.resourceName.toList) :
    Held inventory entry := by
  obtain ⟨query, loaded, own⟩ := owned entry member
  have queryWhole := not_mem_of_isToken (owners.queries query loaded)
  refine ⟨query, loaded, own, fun skipDefaults file rendered => ⟨?_, fun contained => ?_⟩⟩
  · obtain ⟨before, item, after, made, rfl⟩ := exists_items_renderQuery rendered own
    obtain ⟨_, _, rfl⟩ := visualizationItem_eq_ok_iff.1 made
    exact headerLine_mem_linesOf (by decide) whole before _ after
  · exact (queryRefers_of_renderQuery rendered queryWhole contained).headerLine_mem own

/-! ## The references of widgets -/

/-- The configuration lines of a widget's resource: they start with its header, and they refer to
nothing but the dashboard and, if the widget is linked to a visualization, one with that id, which
the file of a loaded query holds. -/
structure WidgetRefers (inventory : Inventory) (dashboard : Entry Dashboard)
    (widget : Entry Widget) (lines : List String) : Prop where
  header : lines.head? = some (headerLine widgetResource widget.resourceName)
  only : ∀ key type name, RefersTo lines key type name →
    referenceLine key type name =
        referenceLine "dashboard_id" dashboardResource dashboard.resourceName ∨
      ∃ shown, referenceLine key type name =
        referenceLine "visualization_id" visualizationResource shown
  dashboard : ∀ name, RefersTo lines "dashboard_id" dashboardResource name ↔
    name = dashboard.resourceName
  visualization : ∀ name, RefersTo lines "visualization_id" visualizationResource name →
    ∃ shown ∈ inventory.visualizations, shown.resourceName = name ∧
      widget.object.visualizationId = some shown.remoteId ∧ Held inventory shown
  linked : widget.object.visualizationId.isSome →
    ∃ name, RefersTo lines "visualization_id" visualizationResource name

theorem widgetRefers_of_resourceLines {inventory : Inventory} (owned : Owned inventory)
    (owners : OwnerTokens inventory) {dashboard : Entry Dashboard} {widget : Entry Widget}
    (contained : ContainedWidget inventory widget) {lines : List String}
    (resource : ResourceLines widgetResource widget.resourceName
      (referenceLine "dashboard_id" dashboardResource dashboard.resourceName ::
        contentReferences inventory widget) lines)
    {content : Item} (shows : contentItem inventory widget = .ok content) :
    WidgetRefers inventory dashboard widget lines := by
  have differ (name type other otherType : String) : referenceLine "dashboard_id" type name ≠
      referenceLine "visualization_id" otherType other := by
    have first : "dashboard_id".toList.head? = some 'd' := rfl
    have second : "visualization_id".toList.head? = some 'v' := rfl
    exact referenceLine_ne first second (by decide) type name otherType other
  refine ⟨resource.header, fun key type name refers => ?_, fun name => ?_,
    fun name refers => ?_, fun linked => ?_⟩
  · refine (List.mem_cons.1 ((resource.references _ _ _).1 refers)).imp_right fun content => ?_
    obtain ⟨shown, _, same⟩ := List.mem_map.1 content
    exact ⟨shown.resourceName, same.symm⟩
  · rw [resource.references, List.mem_cons, referenceLine_inj]
    refine or_iff_left fun content => ?_
    obtain ⟨shown, _, same⟩ := List.mem_map.1 content
    exact differ _ _ _ _ same.symm
  · rw [resource.references, List.mem_cons,
      or_iff_right fun same => differ _ _ _ _ same.symm] at refers
    obtain ⟨shown, here, same⟩ := List.mem_map.1 refers
    obtain ⟨id, link, sought⟩ := Option.bind_eq_some_iff.1 (Option.mem_toList.1 here)
    obtain ⟨member, rfl⟩ := mem_of_findVisualization sought
    exact ⟨shown, member, referenceLine_inj.1 same, link,
      held_of_owned owned owners member (contained.name shown (Option.mem_toList.1 here))⟩
  · rcases contentItem_eq_ok_iff.1 shows with ⟨noLink, _⟩ | ⟨id, shown, link, sought, _⟩
    · rw [noLink] at linked
      cases linked
    · have here : shownBy inventory widget = some shown := by
        rw [shownBy, link, Option.bind_some, sought]
      refine ⟨shown.resourceName, (resource.references _ _ _).2 (List.mem_cons_of_mem _ ?_)⟩
      exact List.mem_map.2 ⟨shown, Option.mem_toList.2 here, rfl⟩

/-! ## Closed references -/

/-- The configuration lines of a dashboard's file: the dashboard's resource comes first and refers
to nothing, and each of its widgets refers to it and to what the widget shows. -/
def DashboardRefers (inventory : Inventory) (dashboard : Entry Dashboard) (lines : List String) :
    Prop :=
  ∃ first widgets, lines = fileLines first widgets ∧
    ResourceLines dashboardResource dashboard.resourceName [] first ∧
    List.Forall₂ (WidgetRefers inventory dashboard) (inventory.widgetsFor dashboard) widgets

/-- **References are closed.**  The calls may fail or not.  When no text of its widgets closes its
own here document and no name of a visualization that they show has a line end, every reference
among the configuration lines of a dashboard's file stands in the resource of a widget.  It leads to
the dashboard's resource, which comes first, or to the resource of the visualization with the id
that the widget is linked to, which the file of a loaded query holds.  Under the same conditions
every reference in the file of a query leads to the query's resource, which comes first. -/
theorem references_closed (calls : List LoadCall) :
    (∀ dashboard ∈ (Inventory.reached calls).dashboards, ∀ file,
      renderDashboard (Inventory.reached calls) dashboard = .ok file →
      (∀ widget ∈ (Inventory.reached calls).widgetsFor dashboard,
        ContainedWidget (Inventory.reached calls) widget) →
        DashboardRefers (Inventory.reached calls) dashboard
          (configurationLines none (linesOf file))) ∧
    ∀ query ∈ (Inventory.reached calls).queries, ∀ skipDefaults file,
      renderQuery skipDefaults (Inventory.reached calls) query = .ok file →
      ContainedQuery (Inventory.reached calls) query →
        QueryRefers (Inventory.reached calls) query (configurationLines none (linesOf file)) := by
  have owned := owned_reached calls
  have owners := ownerTokens_reached calls
  constructor
  · intro dashboard member file rendered contained
    have whole := not_mem_of_isToken (owners.dashboards dashboard member)
    obtain ⟨items, made, rfl⟩ := renderDashboard_eq_ok_iff.1 rendered
    obtain ⟨first, head, own⟩ := exists_lines_dashboardItem whole
    have each : ∀ widget ∈ (Inventory.reached calls).widgetsFor dashboard, ∀ item,
        widgetItem (Inventory.reached calls) dashboard widget = .ok item →
          ∃ lines, Reads (Item.added 0 [item]) lines ∧
            WidgetRefers (Inventory.reached calls) dashboard widget lines := by
      intro widget inside item itemMade
      have token := (partTokens_reached calls).widgets widget (List.mem_of_mem_filter inside)
      have here := contained widget inside
      obtain ⟨_, _, shows, _, _⟩ := widgetItem_eq_ok_iff.1 itemMade
      obtain ⟨lines, reads, resource⟩ :=
        exists_lines_widgetItem itemMade whole (not_mem_of_isToken token) here
      exact ⟨lines, reads, widgetRefers_of_resourceLines owned owners here resource shows⟩
    obtain ⟨parts, reads, refers⟩ := exists_forall₂_of_forall₂ (mapM_eq_ok_iff.1 made) each
    exact ⟨first, parts, configurationLines_file head reads, own, refers⟩
  · intro query member skipDefaults file rendered contained
    exact queryRefers_of_renderQuery rendered
      (not_mem_of_isToken (owners.queries query member)) contained

/-- A dashboard with a widget that shows the chart of a query. -/
def linkedDashboard : Dashboard where
  id := "7"
  name := "KPIs"
  tags := []
  widgets := [.obj [("id", .int 1), ("visualization", .obj [("id", .int 11),
    ("type", .str "chart"), ("query", .obj [("id", .str "q")])])]]

/-- The query with the chart. -/
def chartQuery : Query where
  id := "q"
  dataSourceId := "ds"
  name := "Sales"
  description := none
  text := "SELECT 1"
  schedule := none
  options := ⟨[]⟩
  tags := []
  visualizations := [.obj [("id", .int 11), ("type", .str "chart")]]

/-- A call that loads the dashboard, and with it the query. -/
def linkedCalls : List LoadCall :=
  [⟨servingFetcher [linkedDashboard] [chartQuery], .dashboard, linkedDashboard.id⟩]

/-- The dashboard as it stands in the inventory. -/
def linkedEntry : Entry Dashboard := ⟨"7", "kpis", linkedDashboard⟩

/-- The query as it stands in the inventory. -/
def chartEntry : Entry Query := ⟨"q", "sales", chartQuery⟩

theorem references_closed_linked :
    (∃ file first lines widget name,
      renderDashboard (Inventory.reached linkedCalls) linkedEntry = .ok file ∧
        configurationLines none (linesOf file) = fileLines first [lines] ∧
        WidgetRefers (Inventory.reached linkedCalls) linkedEntry widget lines ∧
        RefersTo lines "visualization_id" visualizationResource name) ∧
    ∃ file first lines, renderQuery true (Inventory.reached linkedCalls) chartEntry = .ok file ∧
      configurationLines none (linesOf file) = fileLines first [lines] ∧
      RefersTo lines "query_id" queryResource "sales" := by
  obtain ⟨dashboards, queries⟩ := references_closed linkedCalls
  constructor
  · have rendered : ∃ file,
        renderDashboard (Inventory.reached linkedCalls) linkedEntry = .ok file := ⟨_, rfl⟩
    have single : ∃ widget, (Inventory.reached linkedCalls).widgetsFor linkedEntry = [widget] ∧
        widget.object.visualizationId.isSome := ⟨_, rfl, rfl⟩
    have contained : ∀ widget ∈ (Inventory.reached linkedCalls).widgetsFor linkedEntry,
        widget.object.visualizationId ≠ none ∧
          ∀ shown ∈ shownBy (Inventory.reached linkedCalls) widget,
            '\n' ∉ shown.resourceName.toList := by decide +kernel
    obtain ⟨file, rendered⟩ := rendered
    obtain ⟨widget, single, link⟩ := single
    obtain ⟨first, widgets, lines, _, refers⟩ :=
      dashboards linkedEntry (by decide +kernel) file rendered fun widget member =>
        ⟨fun noLink => absurd noLink (contained widget member).1, (contained widget member).2⟩
    rw [single] at refers
    cases refers with
    | cons here none =>
        cases none
        obtain ⟨name, refers⟩ := here.linked link
        exact ⟨file, first, _, widget, name, rendered, lines, here, refers⟩
  · have rendered : ∃ file,
        renderQuery true (Inventory.reached linkedCalls) chartEntry = .ok file := ⟨_, rfl⟩
    have single : ∃ entry, (Inventory.reached linkedCalls).visualizationsFor chartEntry = [entry] :=
      ⟨_, rfl⟩
    obtain ⟨file, rendered⟩ := rendered
    obtain ⟨entry, single⟩ := single
    obtain ⟨first, visualizations, lines, _, refers⟩ :=
      queries chartEntry (by decide +kernel) true file rendered
        ⟨by decide +kernel, by decide +kernel⟩
    rw [single] at refers
    cases refers with
    | cons here none =>
        cases none
        exact ⟨file, first, _, rendered, lines, (here.references _ _ _).2 List.mem_cons_self⟩

/-! ## References that lead nowhere -/

/-- The line of a reference to a visualization that was never loaded. -/
def danglingReference : String :=
  referenceLine "visualization_id" visualizationResource "ghost"

/-- The file of a loaded dashboard has the reference among the lines that are read of it, and no
loaded visualization has the name that stands in it. -/
def Dangles (calls : List LoadCall) (read : List String → List String) : Prop :=
  ∃ dashboard ∈ (Inventory.reached calls).dashboards, ∃ file,
    renderDashboard (Inventory.reached calls) dashboard = .ok file ∧
      danglingReference ∈ read (linesOf file) ∧
      ∀ entry ∈ (Inventory.reached calls).visualizations, entry.resourceName ≠ "ghost"

theorem dangles_of_entries {calls : List LoadCall} {read : List String → List String}
    {dashboard : Entry Dashboard} (loaded : dashboard ∈ (Inventory.reached calls).dashboards)
    {entries : List String}
    (listed : (dashboardItems (Inventory.reached calls) dashboard).map (Item.added 0) = .ok entries)
    (among : danglingReference ∈ read (entries.flatMap linesOf ++ [""]))
    (unknown : ∀ entry ∈ (Inventory.reached calls).visualizations, entry.resourceName ≠ "ghost") :
    Dangles calls read := by
  obtain ⟨items, made, rfl⟩ := except_map_eq_ok_iff.1 listed
  obtain ⟨widgets, done, rfl⟩ := dashboardItems_eq_ok_iff.1 made
  refine ⟨dashboard, loaded, _, renderDashboard_eq_ok_iff.2 ⟨widgets, done, rfl⟩, ?_, unknown⟩
  have nonempty : Item.added 0 (dashboardItem dashboard :: apart widgets) ≠ [] :=
    added_resource_ne_nil _ _ _ _
  rw [linesOf_render_eq nonempty]
  exact among

/-- A call that loads a dashboard with a widget that shows a text. -/
def noteCalls (text : String) : List LoadCall :=
  [⟨servingFetcher
    [{ linkedDashboard with widgets := [.obj [("id", .int 1), ("text", .str text)]] }] [],
    .dashboard, linkedDashboard.id⟩]

/-- A call that loads the dashboard with the chart, which has another type. -/
def typeCalls (type : String) : List LoadCall :=
  [⟨servingFetcher [linkedDashboard]
    [{ chartQuery with visualizations := [.obj [("id", .int 11), ("type", .str type)]] }],
    .dashboard, linkedDashboard.id⟩]

/-- **References are not closed without these conditions.**  A text can have a line that is like a
reference; behind a line that closes the here document of the text, it is one.  So it is in the name
of a visualization whose type has a line end in it. -/
theorem references_dangle :
    Dangles (noteCalls danglingReference) id ∧
      Dangles (noteCalls ("EOT\n" ++ danglingReference)) (configurationLines none) ∧
      Dangles (typeCalls "chart\nvisualization_id = databricks_sql_visualization.ghost")
        (configurationLines none) := by
  refine ⟨dangles_of_entries List.mem_cons_self rfl ?_ ?_,
    dangles_of_entries List.mem_cons_self rfl ?_ ?_,
    dangles_of_entries List.mem_cons_self rfl ?_ ?_⟩
  all_goals decide +kernel

end DashboardExport.Rendering
