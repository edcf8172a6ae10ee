import DashboardExport.Proofs.Fallible
import DashboardExport.Rendering.Dashboard

/-!
# Files

A file is made of items: the resource of its query or dashboard first, and after it those
of the visualizations or widgets, each behind an empty line.  There is a file exactly
when there is an item for each of them (`renderQuery_eq_ok_iff`,
`renderDashboard_eq_ok_iff`).
-/

set_option autoImplicit false

namespace DashboardExport.Rendering

open Hcl (Item)

/-! ## Items with a line between them -/

theorem apart_append_cons (before : List Item) (item : Item) (after : List Item) :
    apart (before ++ item :: after) = apart before ++ [Item.gap] ++ item :: apart after := by
  simp only [apart, List.flatMap_append, List.flatMap_cons, List.append_assoc, List.cons_append,
    List.nil_append]

/-! ## Queries -/

/-- The items of a query before its text. -/
def querySettings (query : Query) (parameters : List Item) : List Item :=
  [.assignment "data_source_id" query.dataSourceId, .assignment "name" query.name] ++
    optionalAssignment "description" query.description ++
    [.gap, .strings "tags" query.tags] ++
    apart ((query.schedule.map fun schedule => Item.block "schedule"
      [integerAssignment "interval" schedule.interval]).toList ++ parameters) ++
    [.gap]

/-- The item of a query: its text is the last part, and nothing before it depends on the text. -/
theorem queryItem_eq_ok_iff {entry : Entry Query} {item : Item} :
    queryItem entry = .ok item ↔
      ∃ parameters, entry.object.options.parameters.mapM parameterItem = .ok parameters ∧
        item = resource queryResource entry.resourceName
          (querySettings entry.object parameters ++
            .heredoc "query" "SQL" (some entry.object.text) :: []) := by
  rw [queryItem, except_bind_eq_ok_iff]
  refine exists_congr fun parameters => and_congr_right fun _ => ?_
  rw [querySettings, List.append_assoc _ [Item.gap]]
  cases entry.object.schedule with
  | none => exact except_pure_eq_ok_iff
  | some schedule => exact except_pure_eq_ok_iff

/-- The item of a visualization: its options are the last part. -/
theorem visualizationItem_eq_ok_iff {skipDefaults : Bool} {query : Entry Query}
    {entry : Entry Visualization} {item : Item} :
    visualizationItem skipDefaults query entry = .ok item ↔
      ∃ options, optionsText skipDefaults entry.object = .ok options ∧
        item = resource visualizationResource entry.resourceName
          (([reference "query_id" queryResource query.resourceName,
              .assignment "type" entry.object.lowerType, .assignment "name" entry.object.name] ++
            optionalAssignment "description" entry.object.description ++ [.gap]) ++
              .heredoc "options" "JSON" (some options) :: []) := by
  rw [visualizationItem, except_bind_eq_ok_iff]
  refine exists_congr fun options => and_congr_right fun _ => ?_
  rw [List.append_assoc _ [Item.gap]]
  exact except_pure_eq_ok_iff

/-- The items of a query are its own and those of its visualizations. -/
theorem queryItems_eq_ok_iff {skipDefaults : Bool} {inventory : Inventory} {entry : Entry Query}
    {items : List Item} :
    queryItems skipDefaults inventory entry = .ok items ↔
      ∃ query visualizations, queryItem entry = .ok query ∧
        (inventory.visualizationsFor entry).mapM (visualizationItem skipDefaults entry) =
          .ok visualizations ∧
        items = query :: apart visualizations := by
  constructor
  · intro listed
    obtain ⟨query, made, listed⟩ := except_bind_eq_ok_iff.1 listed
    obtain ⟨visualizations, others, listed⟩ := except_bind_eq_ok_iff.1 listed
    exact ⟨query, visualizations, except_mapError_eq_ok_iff.1 made,
      except_mapError_eq_ok_iff.1 others, except_pure_eq_ok_iff.1 listed⟩
  · rintro ⟨query, visualizations, made, others, rfl⟩
    refine except_bind_eq_ok_iff.2 ⟨query, except_mapError_eq_ok_iff.2 made, ?_⟩
    exact except_bind_eq_ok_iff.2 ⟨visualizations, except_mapError_eq_ok_iff.2 others, rfl⟩

/-- **A query has a file when it and all its visualizations have their items.** -/
theorem renderQuery_eq_ok_iff {skipDefaults : Bool} {inventory : Inventory} {entry : Entry Query}
    {file : String} :
    renderQuery skipDefaults inventory entry = .ok file ↔
      ∃ query visualizations, queryItem entry = .ok query ∧
        (inventory.visualizationsFor entry).mapM (visualizationItem skipDefaults entry) =
          .ok visualizations ∧
        Item.render (query :: apart visualizations) = file := by
  rw [renderQuery, except_map_eq_ok_iff]
  constructor
  · rintro ⟨items, listed, rfl⟩
    obtain ⟨query, visualizations, made, others, rfl⟩ := queryItems_eq_ok_iff.1 listed
    exact ⟨query, visualizations, made, others, rfl⟩
  · rintro ⟨query, visualizations, made, others, rfl⟩
    exact ⟨_, queryItems_eq_ok_iff.2 ⟨query, visualizations, made, others, rfl⟩, rfl⟩

/-! ## Dashboards -/

/-- The items of a widget behind what it shows. -/
def placement (options : WidgetOptions) (mappings : List Item) : List Item :=
  apart ((options.position.map positionItem).toList ++ mappings)

/-- A widget shows its text, or a visualization that was loaded. -/
theorem contentItem_eq_ok_iff {inventory : Inventory} {entry : Entry Widget} {content : Item} :
    contentItem inventory entry = .ok content ↔
      (entry.object.visualizationId = none ∧
        content = .heredoc "text" "EOT" entry.object.text) ∨
      ∃ id shown, entry.object.visualizationId = some id ∧
        inventory.findVisualization id = some shown ∧
        content = reference "visualization_id" visualizationResource shown.resourceName := by
  rw [contentItem]
  cases entry.object.visualizationId with
  | none =>
      constructor
      · intro made
        exact .inl ⟨rfl, except_pure_eq_ok_iff.1 made⟩
      · rintro (⟨_, rfl⟩ | ⟨_, _, link, _⟩)
        · rfl
        · cases link
  | some id =>
      constructor
      · intro made
        cases found : inventory.findVisualization id with
        | none => simp only [found, reduceCtorEq] at made
        | some shown =>
            simp only [found] at made
            exact .inr ⟨id, shown, rfl, found, except_pure_eq_ok_iff.1 made⟩
      · rintro (⟨noLink, _⟩ | ⟨_, shown, link, found, rfl⟩)
        · cases noLink
        · cases link
          simp only [found]

/-- The item of a widget: behind its reference to the dashboard stands what it shows, and nothing
behind that depends on it. -/
theorem widgetItem_eq_ok_iff {inventory : Inventory} {dashboard : Entry Dashboard}
    {entry : Entry Widget} {item : Item} :
    widgetItem inventory dashboard entry = .ok item ↔
      ∃ content mappings, contentItem inventory entry = .ok content ∧
        (entry.object.options.mappings.mapM fun mapping =>
          mappingItem entry.resourceName mapping.2) = .ok mappings ∧
        item = resource widgetResource entry.resourceName
          ([reference "dashboard_id" dashboardResource dashboard.resourceName] ++
            content :: placement entry.object.options mappings) := by
  rw [widgetItem, except_bind_eq_ok_iff]
  refine exists_congr fun content => ?_
  constructor
  · rintro ⟨shows, made⟩
    obtain ⟨mappings, done, made⟩ := except_bind_eq_ok_iff.1 made
    exact ⟨mappings, shows, done, except_pure_eq_ok_iff.1 made⟩
  · rintro ⟨mappings, shows, done, rfl⟩
    exact ⟨shows, except_bind_eq_ok_iff.2 ⟨mappings, done, rfl⟩⟩

/-- The items of a dashboard are its own and those of its widgets. -/
theorem dashboardItems_eq_ok_iff {inventory : Inventory} {entry : Entry Dashboard}
    {items : List Item} :
    dashboardItems inventory entry = .ok items ↔
      ∃ widgets, (inventory.widgetsFor entry).mapM (widgetItem inventory entry) = .ok widgets ∧
        items = dashboardItem entry :: apart widgets := by
  rw [dashboardItems, except_bind_eq_ok_iff]
  exact exists_congr fun widgets => and_congr_right fun _ => except_pure_eq_ok_iff

/-- **A dashboard has a file when all its widgets have their items.** -/
theorem renderDashboard_eq_ok_iff {inventory : Inventory} {entry : Entry Dashboard}
    {file : String} :
    renderDashboard inventory entry = .ok file ↔
      ∃ widgets, (inventory.widgetsFor entry).mapM (widgetItem inventory entry) = .ok widgets ∧
        Item.render (dashboardItem entry :: apart widgets) = file := by
  rw [renderDashboard, except_mapError_eq_ok_iff, except_map_eq_ok_iff]
  constructor
  · rintro ⟨items, listed, rfl⟩
    obtain ⟨widgets, made, rfl⟩ := dashboardItems_eq_ok_iff.1 listed
    exact ⟨widgets, made, rfl⟩
  · rintro ⟨widgets, made, rfl⟩
    exact ⟨_, dashboardItems_eq_ok_iff.2 ⟨widgets, made, rfl⟩, rfl⟩

/-- The widgets of a dashboard, one of them taken out. -/
theorem widgetsFor_append_cons {inventory : Inventory} {dashboard : Entry Dashboard}
    {left right : List (Entry Widget)} {widget : Entry Widget}
    (own : widget.object.dashboardId = dashboard.remoteId) :
    { inventory with widgets := left ++ widget :: right }.widgetsFor dashboard =
      { inventory with widgets := left }.widgetsFor dashboard ++
        widget :: { inventory with widgets := right }.widgetsFor dashboard := by
  have kept : (widget.object.dashboardId == dashboard.remoteId) = true := beq_iff_eq.2 own
  rw [Inventory.widgetsFor, List.filter_append, List.filter_cons, if_pos kept]
  rfl

/-- A dashboard has a file when there are items for the widgets before one of its own, for that one,
and for those after it. -/
theorem renderDashboard_append_cons_eq_ok_iff {inventory : Inventory} {dashboard : Entry Dashboard}
    {left right : List (Entry Widget)} {widget : Entry Widget}
    (own : widget.object.dashboardId = dashboard.remoteId) {file : String} :
    renderDashboard { inventory with widgets := left ++ widget :: right } dashboard = .ok file ↔
      ∃ first item last,
        ({ inventory with widgets := left }.widgetsFor dashboard).mapM
          (widgetItem inventory dashboard) = .ok first ∧
        widgetItem inventory dashboard widget = .ok item ∧
        ({ inventory with widgets := right }.widgetsFor dashboard).mapM
          (widgetItem inventory dashboard) = .ok last ∧
        Item.render ((dashboardItem dashboard :: (apart first ++ [Item.gap])) ++
          item :: apart last) = file := by
  rw [renderDashboard_eq_ok_iff, widgetsFor_append_cons own]
  constructor
  · rintro ⟨widgets, made, rfl⟩
    obtain ⟨first, item, last, firstMade, itemMade, lastMade, rfl⟩ :=
      mapM_append_cons_eq_ok_iff.1 made
    refine ⟨first, item, last, firstMade, itemMade, lastMade, ?_⟩
    rw [apart_append_cons]
    rfl
  · rintro ⟨first, item, last, firstMade, itemMade, lastMade, rfl⟩
    refine ⟨first ++ item :: last, ?_, ?_⟩
    · exact mapM_append_cons_eq_ok_iff.2
        ⟨first, item, last, firstMade, itemMade, lastMade, rfl⟩
    · rw [apart_append_cons]
      rfl

end DashboardExport.Rendering
