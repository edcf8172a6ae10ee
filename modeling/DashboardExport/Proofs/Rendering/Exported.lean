import DashboardExport.Proofs.Rendering.Files

/-!
# What the file of a query says

A file does not say everything about a query.  A description that is missing is written
like an empty one, a number without its fraction, and of a parameter that has one value
only the first one is written.  What is left is the query as it is exported
(`Entry.exported`), and the resource in the file depends on nothing else
(`queryItem_eq_ok_iff_exported`).
-/

set_option autoImplicit false

namespace DashboardExport

open Rendering
open Hcl (Item)

/-! ## Exported queries -/

/-- The values of a parameter, as they are exported. -/
inductive ExportedSelection where
  /-- The first value, of a parameter that has one; empty if it has none. -/
  | one (value : String)
  | several (values : List String) (joined : MultipleValues)
  deriving DecidableEq

/-- The value of a parameter, as it is exported. -/
inductive ExportedValue where
  | single (kind : SingleKind) (text : String)
  /-- A number without its fraction. -/
  | number (value : Int)
  | choice (selection : ExportedSelection) (options : String)
  | queryBacked (selection : ExportedSelection) (queryId : String)
  deriving DecidableEq

/-- A parameter, as it is exported; the title is empty if there is none. -/
structure ExportedParameter where
  name : String
  title : String
  value : ExportedValue
  deriving DecidableEq

/-- A query, as it is exported; the description is empty if there is none. -/
@[ext]
structure ExportedQuery where
  resourceName : String
  dataSourceId : String
  name : String
  description : String
  tags : List String
  interval : Option Int
  parameters : List ExportedParameter
  text : String
  deriving DecidableEq

def Selection.exported (selection : Selection) : ExportedSelection :=
  match selection.multiple with
  | none => .one (selection.values.head?.getD "")
  | some joined => .several selection.values joined

def ParameterValue.exported : ParameterValue → Except Problem ExportedValue
  | .single kind text => .ok (.single kind text)
  | .number value => (wholeNumber value).map .number
  | .choice selection options => .ok (.choice selection.exported options)
  | .queryBacked selection queryId => .ok (.queryBacked selection.exported queryId)

def Parameter.exported (parameter : Parameter) : Except Problem ExportedParameter :=
  parameter.value.exported.map fun value =>
    { name := parameter.name, title := parameter.title.getD "", value }

/-- A query as it is exported, with its parameters. -/
def Entry.exportedWith (entry : Entry Query) (parameters : List ExportedParameter) :
    ExportedQuery where
  resourceName := entry.resourceName
  dataSourceId := entry.object.dataSourceId
  name := entry.object.name
  description := entry.object.description.getD ""
  tags := entry.object.tags
  interval := entry.object.schedule.map Schedule.interval
  parameters
  text := entry.object.text

/-- A query as it is exported, if all its numbers are finite. -/
def Entry.exported (entry : Entry Query) : Except Problem ExportedQuery :=
  (entry.object.options.parameters.mapM Parameter.exported).map entry.exportedWith

/-! ## Their items -/

namespace ExportedSelection

def items : ExportedSelection → List Item
  | .one value => [.assignment "value" value]
  | .several values joined =>
    [.strings "values" values] ++ ([Item.gap] ++
      [.block "multiple" ([.assignment "prefix" joined.before] ++
        ([.assignment "suffix" joined.after] ++ [.assignment "separator" joined.separator]))])

end ExportedSelection

namespace ExportedValue

def kind : ExportedValue → ParameterKind
  | .single kind _ => .single kind
  | .number _ => .number
  | .choice .. => .choice
  | .queryBacked .. => .queryBacked

def items : ExportedValue → List Item
  | .single _ text => [.assignment "value" text]
  | .number value => [integerAssignment "value" value]
  | .choice selection options => [.strings "options" (linesOf options)] ++ selection.items
  | .queryBacked selection queryId => [.assignment "query_id" queryId] ++ selection.items

end ExportedValue

/-- The block of a parameter. -/
def ExportedParameter.item (parameter : ExportedParameter) : Item :=
  .block "parameter" ([.assignment "name" parameter.name] ++
    ((optionalAssignment "title" (some parameter.title) ++ [Item.gap]) ++
      [.block (valueBlock parameter.value.kind) parameter.value.items]))

/-- The block of a schedule. -/
def scheduleItem (interval : Int) : Item :=
  .block "schedule" [integerAssignment "interval" interval]

namespace ExportedQuery

/-- The items of a query before its text. -/
def settings (query : ExportedQuery) : List Item :=
  [.assignment "data_source_id" query.dataSourceId] ++ ([.assignment "name" query.name] ++
    ((optionalAssignment "description" (some query.description) ++ [Item.gap]) ++
      ([.strings "tags" query.tags] ++ ([Item.gap] ++
        (query.interval.toList.flatMap (fun interval => [scheduleItem interval, Item.gap]) ++
          (query.parameters.flatMap (fun parameter => [parameter.item, Item.gap]) ++ []))))))

/-- The resource of a query. -/
def item (query : ExportedQuery) : Item :=
  resource queryResource query.resourceName
    (query.settings ++ .heredoc "query" "SQL" (some query.text) :: [])

end ExportedQuery

namespace Rendering

theorem selectionItems_eq (selection : Selection) :
    selectionItems selection = selection.exported.items := by
  rw [selectionItems, Selection.exported]
  cases selection.multiple with
  | none => rfl
  | some joined => rfl

theorem valueItems_eq (value : ParameterValue) :
    valueItems value = value.exported.map ExportedValue.items := by
  cases value with
  | single kind text => rfl
  | number value =>
      rw [valueItems, ParameterValue.exported]
      cases wholeNumber value with
      | error problem => rfl
      | ok n => rfl
  | choice selection options =>
      rw [valueItems, selectionItems_eq]
      rfl
  | queryBacked selection queryId =>
      rw [valueItems, selectionItems_eq]
      rfl

theorem kind_of_exported {value : ParameterValue} {exported : ExportedValue}
    (made : value.exported = .ok exported) : exported.kind = value.kind := by
  cases value with
  | single kind text =>
      cases made
      rfl
  | number value =>
      obtain ⟨_, _, rfl⟩ := except_map_eq_ok_iff.1 made
      rfl
  | choice selection options =>
      cases made
      rfl
  | queryBacked selection queryId =>
      cases made
      rfl

/-- A text that is missing is written like an empty one. -/
theorem optionalAssignment_getD (key : String) (text : Option String) :
    optionalAssignment key (some (text.getD "")) = optionalAssignment key text := by
  cases text with
  | none => rfl
  | some text => rfl

/-- The block of a parameter depends on what is exported of it only. -/
theorem parameterItem_eq (parameter : Parameter) :
    parameterItem parameter = parameter.exported.map ExportedParameter.item := by
  rw [parameterItem, Parameter.exported, valueItems_eq]
  cases made : parameter.value.exported with
  | error problem => rfl
  | ok value =>
      have written : ExportedParameter.item ⟨parameter.name, parameter.title.getD "", value⟩ =
          .block "parameter" (.assignment "name" parameter.name ::
            optionalAssignment "title" parameter.title ++
              [Item.gap, .block (valueBlock parameter.kind) value.items]) := by
        rw [ExportedParameter.item, optionalAssignment_getD, kind_of_exported made,
          List.append_assoc]
        rfl
      exact congrArg Except.ok written.symm

theorem mapM_parameterItem (parameters : List Parameter) :
    parameters.mapM parameterItem =
      (parameters.mapM Parameter.exported).map (List.map ExportedParameter.item) := by
  rw [← mapM_map]
  exact congrArg (parameters.mapM ·) (funext parameterItem_eq)

/-- An empty line before each group and one at the end are one at first and one behind each. -/
theorem apart_concat_gap (groups : List Item) :
    apart groups ++ [Item.gap] = [Item.gap] ++ groups.flatMap fun item => [item, Item.gap] := by
  induction groups with
  | nil => rfl
  | cons item rest ih =>
      rw [apart, List.flatMap_cons, List.append_assoc, ← apart, ih]
      rfl

/-- The settings of a query depend on what is exported of it only. -/
theorem querySettings_eq (entry : Entry Query) (parameters : List ExportedParameter) :
    querySettings entry.object (parameters.map ExportedParameter.item) =
      (entry.exportedWith parameters).settings := by
  have schedule : ((entry.object.schedule.map fun schedule => Item.block "schedule"
      [integerAssignment "interval" schedule.interval]).toList).flatMap
        (fun item => [item, Item.gap]) =
      (entry.object.schedule.map Schedule.interval).toList.flatMap
        fun interval => [scheduleItem interval, Item.gap] := by
    cases entry.object.schedule with
    | none => rfl
    | some schedule => rfl
  rw [querySettings, List.append_assoc _ _ [Item.gap], apart_concat_gap, List.flatMap_append,
    schedule, List.flatMap_map, ExportedQuery.settings]
  simp only [Entry.exportedWith, optionalAssignment_getD, List.append_assoc, List.append_nil,
    List.cons_append, List.nil_append]

/-- **The resource of a query depends on what is exported of it only.** -/
theorem queryItem_eq_ok_iff_exported {entry : Entry Query} {item : Item} :
    queryItem entry = .ok item ↔ ∃ query, entry.exported = .ok query ∧ item = query.item := by
  rw [queryItem_eq_ok_iff, mapM_parameterItem, Entry.exported]
  constructor
  · rintro ⟨_, made, rfl⟩
    obtain ⟨exported, done, rfl⟩ := except_map_eq_ok_iff.1 made
    rw [querySettings_eq]
    exact ⟨_, except_map_eq_ok_iff.2 ⟨exported, done, rfl⟩, rfl⟩
  · rintro ⟨_, made, rfl⟩
    obtain ⟨exported, done, rfl⟩ := except_map_eq_ok_iff.1 made
    refine ⟨_, except_map_eq_ok_iff.2 ⟨exported, done, rfl⟩, ?_⟩
    rw [querySettings_eq]
    rfl

end Rendering

end DashboardExport
