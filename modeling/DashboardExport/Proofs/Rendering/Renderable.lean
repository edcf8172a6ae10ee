import DashboardExport.Proofs.Model.Parameters
import DashboardExport.Proofs.Rendering.Failures
import DashboardExport.Proofs.Rendering.Files

/-!
# What can be rendered

A widget can be rendered when the visualization that it is linked to was loaded and the
values of its parameters are texts or null (`Widget.Renderable`).  One that cannot be has
one problem, the first in the order of writing (`Offends`), and a dashboard fails with the
problem of the first widget that has one.

A query can be rendered when its numbers are finite and the options of its tables decode.
Nothing else stands in the way: each of the ten kinds of parameter has its block
(`parameterItem_of_decode`).
-/

set_option autoImplicit false

namespace DashboardExport.Rendering

open Decoding
open Hcl (Item)

/-! ## Widgets -/

/-- A value that can be written for a parameter of a widget: a text, or null for none. -/
def PlainValue (value : Json) : Prop := value = .null ∨ ∃ text, value = .str text

/-- The visualization with an id was loaded. -/
def Loaded (inventory : Inventory) (id : String) : Prop :=
  ∃ shown ∈ inventory.visualizations, shown.remoteId = id

/-- What a widget is linked to was loaded, if it is linked to anything. -/
def Linked (inventory : Inventory) (widget : Entry Widget) : Prop :=
  ∀ id, widget.object.visualizationId = some id → Loaded inventory id

/-- A widget that can be rendered. -/
structure Renderable (inventory : Inventory) (widget : Entry Widget) : Prop where
  linked : Linked inventory widget
  values : ∀ mapping ∈ widget.object.options.mappings, PlainValue mapping.2.value

/-- What is wrong with a widget: the link comes before the values, which come in their order. -/
inductive Offends (inventory : Inventory) (widget : Entry Widget) : Problem → Prop where
  | unlinked {id : String} (link : widget.object.visualizationId = some id)
      (missing : ¬ Loaded inventory id) :
      Offends inventory widget (.missingVisualization widget.resourceName id)
  | value {before after : List (String × ParameterMapping)} {key : String}
      {mapping : ParameterMapping} (linked : Linked inventory widget)
      (listed : widget.object.options.mappings = before ++ (key, mapping) :: after)
      (plain : ∀ earlier ∈ before, PlainValue earlier.2.value)
      (other : ¬ PlainValue mapping.value) :
      Offends inventory widget
        (.unsupportedValue mapping.name widget.resourceName mapping.value.kindName)

section Widgets

variable {inventory : Inventory} {widget : Entry Widget} {problem : Problem}

theorem findVisualization_eq_none_iff {id : String} :
    inventory.findVisualization id = none ↔ ¬ Loaded inventory id := by
  simp [Inventory.findVisualization, Loaded]

theorem contentItem_eq_error_iff :
    contentItem inventory widget = .error problem ↔
      ∃ id, widget.object.visualizationId = some id ∧ ¬ Loaded inventory id ∧
        problem = .missingVisualization widget.resourceName id := by
  rw [contentItem]
  cases widget.object.visualizationId with
  | none => simp
  | some id =>
      simp only [Option.some.injEq, exists_eq_left', ← findVisualization_eq_none_iff]
      cases inventory.findVisualization id with
      | none => simp [eq_comm]
      | some shown => simp

theorem exists_contentItem_iff :
    (∃ content, contentItem inventory widget = .ok content) ↔ Linked inventory widget := by
  rw [exists_ok_iff]
  simp only [Ne, contentItem_eq_error_iff]
  constructor
  · intro never id link
    by_contra missing
    exact never _ ⟨id, link, missing, rfl⟩
  · rintro linked problem ⟨id, link, missing, -⟩
    exact missing (linked id link)

theorem mappingItem_eq_error_iff {widgetName : String} {mapping : ParameterMapping} :
    mappingItem widgetName mapping = .error problem ↔ ¬ PlainValue mapping.value ∧
      problem = .unsupportedValue mapping.name widgetName mapping.value.kindName := by
  have value : mappingItem widgetName mapping = .error problem ↔
      mappingValue widgetName mapping = .error problem := by
    rw [mappingItem, except_bind_eq_error_iff]
    exact or_iff_left (by rintro ⟨_, _, never⟩; cases never)
  rw [value, mappingValue, PlainValue]
  cases mapping.value <;> simp [eq_comm]

theorem exists_mappingItem_iff {widgetName : String} {mapping : ParameterMapping} :
    (∃ item, mappingItem widgetName mapping = .ok item) ↔ PlainValue mapping.value := by
  rw [exists_ok_iff]
  simp only [Ne, mappingItem_eq_error_iff]
  constructor
  · intro never
    by_contra other
    exact never _ ⟨other, rfl⟩
  · rintro plain problem ⟨other, -⟩
    exact other plain

/-- **A widget has an item exactly when it can be rendered.** -/
theorem exists_widgetItem_iff {dashboard : Entry Dashboard} :
    (∃ item, widgetItem inventory dashboard widget = .ok item) ↔ Renderable inventory widget := by
  simp only [widgetItem_eq_ok_iff]
  constructor
  · rintro ⟨_, content, mappings, shows, done, -⟩
    refine ⟨exists_contentItem_iff.1 ⟨content, shows⟩, fun mapping member => ?_⟩
    exact exists_mappingItem_iff.1 (exists_mapM_eq_ok_iff.1 ⟨mappings, done⟩ mapping member)
  · rintro ⟨linked, values⟩
    obtain ⟨content, shows⟩ := exists_contentItem_iff.2 linked
    obtain ⟨mappings, done⟩ := exists_mapM_eq_ok_iff.2 fun mapping member =>
      (@exists_mappingItem_iff widget.resourceName _).2 (values mapping member)
    exact ⟨_, content, mappings, shows, done, rfl⟩

/-- **A widget that has no item has one problem**, the first one. -/
theorem widgetItem_eq_error_iff {dashboard : Entry Dashboard} :
    widgetItem inventory dashboard widget = .error problem ↔ Offends inventory widget problem := by
  have placed : widgetItem inventory dashboard widget = .error problem ↔
      contentItem inventory widget = .error problem ∨ Linked inventory widget ∧
        (widget.object.options.mappings.mapM fun mapping =>
          mappingItem widget.resourceName mapping.2) = .error problem := by
    rw [widgetItem, except_bind_eq_error_iff, ← exists_contentItem_iff]
    rw [← exists_and_right]
    refine or_congr_right (exists_congr fun content => and_congr_right fun _ => ?_)
    rw [except_bind_eq_error_iff]
    exact or_iff_left (by rintro ⟨_, _, never⟩; cases never)
  rw [placed, contentItem_eq_error_iff, mapM_eq_error_iff]
  simp only [exists_mappingItem_iff, mappingItem_eq_error_iff]
  constructor
  · rintro (⟨id, link, missing, rfl⟩ | ⟨linked, before, ⟨key, mapping⟩, after, listed, plain,
      other, rfl⟩)
    · exact .unlinked link missing
    · exact .value linked listed plain other
  · intro offends
    cases offends with
    | unlinked link missing => exact .inl ⟨_, link, missing, rfl⟩
    | value linked listed plain other =>
        exact .inr ⟨linked, _, (_, _), _, listed, plain, other, rfl⟩

end Widgets

/-! ## Dashboards -/

section Dashboards

variable {inventory : Inventory} {dashboard : Entry Dashboard}

theorem exists_renderDashboard_iff :
    (∃ file, renderDashboard inventory dashboard = .ok file) ↔
      ∀ widget ∈ inventory.widgetsFor dashboard, Renderable inventory widget := by
  simp only [renderDashboard_eq_ok_iff, ← @exists_widgetItem_iff inventory _ dashboard]
  rw [← exists_mapM_eq_ok_iff]
  constructor
  · rintro ⟨_, widgets, made, -⟩
    exact ⟨widgets, made⟩
  · rintro ⟨widgets, made⟩
    exact ⟨_, widgets, made, rfl⟩

/-- **A dashboard fails with the problem of its first widget that has one.** -/
theorem renderDashboard_eq_error_iff {failure : Failure} :
    renderDashboard inventory dashboard = .error failure ↔
      ∃ before widget after problem,
        inventory.widgetsFor dashboard = before ++ widget :: after ∧
        (∀ earlier ∈ before, Renderable inventory earlier) ∧
        Offends inventory widget problem ∧ failure = .rendering problem := by
  have listed (problem : Problem) : dashboardItems inventory dashboard = .error problem ↔
      (inventory.widgetsFor dashboard).mapM (widgetItem inventory dashboard) = .error problem := by
    rw [dashboardItems, except_bind_eq_error_iff]
    exact or_iff_left (by rintro ⟨_, _, never⟩; cases never)
  simp only [renderDashboard, except_mapError_eq_error_iff, except_map_eq_error_iff, listed,
    mapM_eq_error_iff, exists_widgetItem_iff, widgetItem_eq_error_iff]
  constructor
  · rintro ⟨problem, ⟨before, widget, after, same, earlier, offends⟩, rfl⟩
    exact ⟨before, widget, after, problem, same, earlier, offends, rfl⟩
  · rintro ⟨before, widget, after, problem, same, earlier, offends, rfl⟩
    exact ⟨problem, ⟨before, widget, after, same, earlier, offends⟩, rfl⟩

end Dashboards

/-! ## Queries -/

/-- All numbers among the parameters of a query are finite.  One without a value counts as zero. -/
def FiniteNumbers (query : Query) : Prop :=
  ∀ parameter ∈ query.options.parameters, ∀ x, parameter.value = .number (some x) →
    x.isFinite = true

/-- The options of a visualization decode, if it is a table. -/
def TableDecodes (visualization : Visualization) : Prop :=
  visualization.lowerType = tableType →
    ∃ options, TableOptions.decode visualization.options = .value options

/-- What is wrong with a query: its numbers come before its visualizations, and the first of either
that does not fit counts. -/
inductive QueryOffends (inventory : Inventory) (query : Entry Query) : Failure → Prop where
  | number {x : Binary64} (first : query.object.nonFinite? = some x) :
      QueryOffends inventory query (.rendering (.ofNonFinite x))
  | table {before after : List (Entry Visualization)} {entry : Entry Visualization}
      {issues : List Issue} (finite : FiniteNumbers query.object)
      (listed : inventory.visualizationsFor query = before ++ entry :: after)
      (decode : ∀ earlier ∈ before, TableDecodes earlier.object)
      (table : entry.object.lowerType = tableType)
      (refused : TableOptions.decode entry.object.options = .invalid issues) :
      QueryOffends inventory query
        (.refused (.undecodable (.part "VisualizationTableOptions") (.fields issues)))

section Queries

variable {skipDefaults : Bool} {inventory : Inventory} {query : Entry Query}

theorem nonFinite?_eq_none_iff_finiteNumbers {object : Query} :
    object.nonFinite? = none ↔ FiniteNumbers object := by
  rw [Query.nonFinite?, List.findSome?_eq_none_iff, FiniteNumbers]
  refine forall₂_congr fun parameter _ => ?_
  rw [Parameter.nonFinite?]
  cases parameter.value with
  | number value =>
      cases value with
      | none => simp
      | some x => simp
  | _ => simp

theorem exists_queryItem_iff :
    (∃ item, queryItem query = .ok item) ↔ FiniteNumbers query.object := by
  rw [exists_ok_iff, ← nonFinite?_eq_none_iff_finiteNumbers, Option.eq_none_iff_forall_ne_some]
  simp only [Ne, queryItem_eq_error_iff]
  constructor
  · intro never x first
    exact never _ ⟨x, first, rfl⟩
  · rintro never problem ⟨x, first, -⟩
    exact never x first

theorem visualizationItem_eq_error_iff {entry : Entry Visualization} {refusal : Refusal} :
    visualizationItem skipDefaults query entry = .error refusal ↔
      entry.object.lowerType = tableType ∧ ∃ issues,
        TableOptions.decode entry.object.options = .invalid issues ∧
        refusal = .undecodable (.part "VisualizationTableOptions") (.fields issues) := by
  have options : visualizationItem skipDefaults query entry = .error refusal ↔
      optionsJson skipDefaults entry.object = .error refusal := by
    rw [visualizationItem, except_bind_eq_error_iff, optionsText, except_map_eq_error_iff]
    exact or_iff_left (by rintro ⟨_, _, never⟩; cases never)
  have accepted := TableOptions.rejection?_decode entry.object.options
  rw [options, optionsJson]
  by_cases table : entry.object.lowerType = tableType
  · rw [if_pos table, except_bind_eq_error_iff]
    generalize TableOptions.decode entry.object.options = outcome at accepted
    cases outcome with
    | value options =>
        constructor
        · rintro (refused | ⟨_, _, never⟩)
          · cases refused
          · cases never
        · rintro ⟨_, _, never, _⟩
          cases never
    | invalid issues => simp [Refusal.ofOutcome, table, eq_comm]
    | rejected rejection => cases accepted
  · simp [table]

theorem exists_visualizationItem_iff {entry : Entry Visualization} :
    (∃ item, visualizationItem skipDefaults query entry = .ok item) ↔
      TableDecodes entry.object := by
  have accepted := TableOptions.rejection?_decode entry.object.options
  rw [exists_ok_iff, TableDecodes]
  simp only [Ne, visualizationItem_eq_error_iff]
  generalize TableOptions.decode entry.object.options = outcome at accepted
  cases outcome with
  | value options => simp
  | invalid issues => simp
  | rejected rejection => cases accepted

theorem exists_renderQuery_iff :
    (∃ file, renderQuery skipDefaults inventory query = .ok file) ↔
      FiniteNumbers query.object ∧
        ∀ entry ∈ inventory.visualizationsFor query, TableDecodes entry.object := by
  simp only [renderQuery_eq_ok_iff, ← exists_queryItem_iff,
    ← @exists_visualizationItem_iff skipDefaults query]
  rw [← exists_mapM_eq_ok_iff]
  constructor
  · rintro ⟨_, item, visualizations, made, others, -⟩
    exact ⟨⟨item, made⟩, visualizations, others⟩
  · rintro ⟨⟨item, made⟩, visualizations, others⟩
    exact ⟨_, item, visualizations, made, others, rfl⟩

/-- **A query fails with its first number that is not finite**, or else with its first table whose
options do not decode. -/
theorem renderQuery_eq_error_iff {failure : Failure} :
    renderQuery skipDefaults inventory query = .error failure ↔
      QueryOffends inventory query failure := by
  have placed : renderQuery skipDefaults inventory query = .error failure ↔
      (∃ problem, queryItem query = .error problem ∧ .rendering problem = failure) ∨
        (∃ item, queryItem query = .ok item) ∧ ∃ refusal,
          (inventory.visualizationsFor query).mapM (visualizationItem skipDefaults query) =
            .error refusal ∧ .refused refusal = failure := by
    rw [renderQuery, except_map_eq_error_iff, queryItems, except_bind_eq_error_iff,
      except_mapError_eq_error_iff, ← exists_and_right]
    refine or_congr_right (exists_congr fun item => ?_)
    rw [except_mapError_eq_ok_iff, except_bind_eq_error_iff, except_mapError_eq_error_iff]
    exact and_congr_right fun _ => or_iff_left (by rintro ⟨_, _, never⟩; cases never)
  rw [placed, exists_queryItem_iff]
  simp only [queryItem_eq_error_iff, mapM_eq_error_iff, exists_visualizationItem_iff,
    visualizationItem_eq_error_iff]
  constructor
  · rintro (⟨_, ⟨x, first, rfl⟩, rfl⟩ |
      ⟨finite, _, ⟨before, entry, after, listed, decode, table, issues, refused, rfl⟩, rfl⟩)
    · exact .number first
    · exact .table finite listed decode table refused
  · intro offends
    cases offends with
    | number first => exact .inl ⟨_, ⟨_, first, rfl⟩, rfl⟩
    | table finite listed decode table refused =>
        exact .inr ⟨finite, _, ⟨_, _, _, listed, decode, table, _, refused, rfl⟩, rfl⟩

end Queries

/-! ## Parameters -/

/-- **A decoded parameter is written in the block of its kind**, unless it is a number that is not
finite: there is no kind without a block. -/
theorem parameterItem_of_decode {payload : Json} {parameter : Parameter}
    (read : Parameter.decode payload = .value parameter) :
    ∃ members kind, payload = .obj members ∧
      members.lookup Parameter.typeField.service = some (.str kind.discriminant) ∧
      ((∃ items, parameterItem parameter = .ok (.block "parameter"
          (.assignment "name" parameter.name :: optionalAssignment "title" parameter.title ++
            [.gap, .block (valueBlock kind) items]))) ∨
        ∃ x, parameter.nonFinite? = some x ∧
          parameterItem parameter = .error (.ofNonFinite x)) := by
  obtain ⟨members, same, typed, _⟩ := Parameter.exists_typed_of_decode read
  refine ⟨members, parameter.kind, same, typed, ?_⟩
  cases made : parameterItem parameter with
  | ok item =>
      obtain ⟨items, _, block⟩ := except_bind_eq_ok_iff.1 made
      exact .inl ⟨items, block.symm⟩
  | error problem =>
      obtain ⟨x, notFinite, rfl⟩ := parameterItem_eq_error_iff.1 made
      exact .inr ⟨x, notFinite, rfl⟩

/-! ## What can be rendered -/

/-- **A dashboard is rendered when all its widgets can be, and a query when its numbers are finite
and the options of its tables decode.**  Otherwise a dashboard fails with the problem of the first
widget that has one: a visualization that was not loaded, or else the first value that is neither a
text nor null.  A query fails with its first number that is not finite, or else with the first of
its tables whose options do not decode, and with nothing else: a decoded parameter that is not such
a number is written in the block of its kind. -/
theorem rendered_iff (inventory : Inventory) :
    (∀ dashboard : Entry Dashboard,
      ((∃ file, renderDashboard inventory dashboard = .ok file) ↔
        ∀ widget ∈ inventory.widgetsFor dashboard, Renderable inventory widget) ∧
      ∀ failure, renderDashboard inventory dashboard = .error failure ↔
        ∃ before widget after problem,
          inventory.widgetsFor dashboard = before ++ widget :: after ∧
          (∀ earlier ∈ before, Renderable inventory earlier) ∧
          Offends inventory widget problem ∧ failure = .rendering problem) ∧
    (∀ (skipDefaults : Bool) (query : Entry Query),
      ((∃ file, renderQuery skipDefaults inventory query = .ok file) ↔
        FiniteNumbers query.object ∧
          ∀ entry ∈ inventory.visualizationsFor query, TableDecodes entry.object) ∧
      ∀ failure, renderQuery skipDefaults inventory query = .error failure ↔
        QueryOffends inventory query failure) ∧
    ∀ (payload : Json) (parameter : Parameter), Parameter.decode payload = .value parameter →
      ∃ members kind, payload = .obj members ∧
        members.lookup Parameter.typeField.service = some (.str kind.discriminant) ∧
        ((∃ items, parameterItem parameter = .ok (.block "parameter"
            (.assignment "name" parameter.name :: optionalAssignment "title" parameter.title ++
              [.gap, .block (valueBlock kind) items]))) ∨
          ∃ x, parameter.nonFinite? = some x ∧
            parameterItem parameter = .error (.ofNonFinite x)) := by
  refine ⟨fun dashboard => ⟨exists_renderDashboard_iff, fun _ => renderDashboard_eq_error_iff⟩,
    fun skipDefaults query => ⟨exists_renderQuery_iff, fun _ => renderQuery_eq_error_iff⟩, ?_⟩
  intro payload parameter read
  exact parameterItem_of_decode read

/-- A widget of a dashboard with a link and with values for its parameters. -/
def boardWidget (name : String) (link : Option String) (values : List Json) : Entry Widget where
  remoteId := name
  resourceName := name
  object :=
    { id := name, dashboardId := "board", text := some "Sales", visualization := none,
      visualizationId := link,
      options := ⟨none, values.map fun value => ("p", ⟨"p", "static", none, none, value⟩)⟩ }

/-- A dashboard of three widgets.  The second one is linked to nothing that was loaded and has a
value that cannot be written, like the third one. -/
def untidyInventory : Inventory :=
  { Inventory.empty with
    widgets := [boardWidget "board_0" none [.str "EMEA", .null],
      boardWidget "board_1" (some "7") [.arr []], boardWidget "board_2" none [.int 1]] }

def untidyDashboard : Entry Dashboard := ⟨"board", "board", ⟨"board", "Board", [], []⟩⟩

/-- A query with a number that is not finite, behind a text. -/
def untidyQuery : Entry Query where
  remoteId := "q"
  resourceName := "q"
  object :=
    { id := "q", dataSourceId := "", name := "Q", description := none, text := "",
      schedule := none, tags := [], visualizations := [],
      options := ⟨[⟨"p", none, .single .text "x"⟩, ⟨"n", none, .number (some .nan)⟩]⟩ }

theorem rendered_iff_untidy :
    renderDashboard untidyInventory untidyDashboard =
        .error (.rendering (.missingVisualization "board_1" "7")) ∧
      renderQuery true untidyInventory untidyQuery = .error (.rendering .notANumber) ∧
      Parameter.decode (.obj [("name", .str "day"), ("type", .str "date-range")]) =
        .value ⟨"day", none, .single .dateRange ""⟩ ∧
      ∃ kind items, kind.discriminant = "date-range" ∧
        parameterItem ⟨"day", none, .single .dateRange ""⟩ = .ok (.block "parameter"
          [.assignment "name" "day", .gap, .block (valueBlock kind) items]) := by
  obtain ⟨dashboards, queries, parameters⟩ := rendered_iff untidyInventory
  refine ⟨?_, ?_, rfl, ?_⟩
  · refine ((dashboards untidyDashboard).2 _).2
      ⟨[boardWidget "board_0" none [.str "EMEA", .null]], boardWidget "board_1" (some "7") [.arr []],
        [boardWidget "board_2" none [.int 1]], _, by decide +kernel, ?_, .unlinked rfl ?_, rfl⟩
    · intro earlier member
      rw [List.mem_singleton.1 member]
      refine ⟨nofun, fun mapping listed => ?_⟩
      rcases List.mem_pair.1 listed with rfl | rfl
      · exact .inr ⟨_, rfl⟩
      · exact .inl rfl
    · rintro ⟨_, never, _⟩
      cases never
  · exact ((queries true untidyQuery).2 _).2
      (@QueryOffends.number untidyInventory untidyQuery .nan rfl)
  · have read : Parameter.decode (.obj [("name", .str "day"), ("type", .str "date-range")]) =
        .value ⟨"day", none, .single .dateRange ""⟩ := rfl
    obtain ⟨members, kind, same, typed, ⟨items, made⟩ | ⟨x, never, _⟩⟩ := parameters _ _ read
    · cases same
      have discriminant : some (Json.str "date-range") = some (.str kind.discriminant) := typed
      exact ⟨kind, items, (Json.str.inj (Option.some.inj discriminant)).symm, made⟩
    · cases never

end DashboardExport.Rendering
