import DashboardExport.Proofs.Hcl.Delimited
import DashboardExport.Proofs.Inventory.Tokens
import DashboardExport.Proofs.Rendering.Exported
import DashboardExport.Proofs.Rendering.Heredoc
import DashboardExport.Proofs.Rendering.Settings

/-!
# Files of queries are read back

The file of a query without visualizations says exactly what is exported of the query
(`renderQuery_decodable`).  Before the text of the query stand its settings, which are read
item by item: each of them shows where it ends, and those that may be missing or may occur
several times begin differently from what follows them.  What is left then is the text of
the query with the same three lines behind it, whatever lines the text has.
-/

set_option autoImplicit false

namespace DashboardExport

open Rendering
open Hcl (Item Writer)
open Hcl.Item (DelimitedItems delimitedItems_assignment delimitedItems_block
  delimitedItems_block_of delimitedItems_line delimitedItems_strings
  not_starts_block peel_same)
open Text (Starts)

/-! ## Items -/

theorem delimitedItems_integerAssignment (key : String) :
    DelimitedItems fun value => [integerAssignment key value] :=
  delimitedItems_line fun left right same => by
    rw [String.append_right_inj] at same
    exact Json.toString_int_injective same

/-- **A text that is written unless it is empty** is read off what is written before the next empty
line. -/
theorem delimitedItems_optionalAssignment (key : String) :
    DelimitedItems fun text => optionalAssignment key (some text) ++ [Item.gap] := by
  -- The empty line stands where the text would.
  have apart (depth : Nat) (text : String) (rest more : List String) :
      Item.added depth [.assignment key text, Item.gap] ++ rest ≠
        Item.added depth [Item.gap] ++ more := by
    intro same
    have line := Writer.lineEntry_injective depth (List.cons.inj same).1
    rw [String.append_eq_empty_iff] at line
    exact quoted_ne_empty text line.2
  intro depth left right rest more same
  simp only [optionalAssignment] at same
  split_ifs at same with first second second
  · rw [String.isEmpty_iff] at first second
    exact ⟨first.trans second.symm, (List.cons.inj same).2⟩
  · exact absurd same.symm (apart depth right more rest)
  · exact absurd same (apart depth left rest more)
  · obtain ⟨texts, later⟩ := (delimitedItems_assignment key).peel same
    exact ⟨texts, (List.cons.inj later).2⟩

/-! ## Parameters -/

theorem delimitedItems_multipleValues : DelimitedItems fun joined : MultipleValues =>
    [.block "multiple" ([.assignment "prefix" joined.before] ++
      ([.assignment "suffix" joined.after] ++ [.assignment "separator" joined.separator]))] := by
  refine delimitedItems_block "multiple" ?_
  rintro depth ⟨before, after, separator⟩ ⟨_, _, _⟩ rest more same
  obtain ⟨rfl, behindPrefix⟩ := (delimitedItems_assignment "prefix").peel same
  obtain ⟨rfl, behindSuffix⟩ := (delimitedItems_assignment "suffix").peel behindPrefix
  obtain ⟨rfl, behind⟩ := delimitedItems_assignment "separator" depth behindSuffix
  exact ⟨rfl, behind⟩

/-- **One value is told from several**, and either is read off. -/
theorem delimitedItems_selection : DelimitedItems ExportedSelection.items := by
  -- A line with a text ends in a quotation mark, and one that opens a list in a bracket.
  have apart (depth : Nat) (value : String) (values : List String) (others : List Item)
      (rest more : List String) : Item.added depth [.assignment "value" value] ++ rest ≠
        Item.added depth ([.strings "values" values] ++ others) ++ more := by
    intro same
    rw [Item.added_append, Item.added_strings] at same
    have line := Writer.lineEntry_injective depth (List.cons.inj same).1
    have ends := congrArg (fun line => line.toList.getLast?) line
    simp only [String.toList_append, List.getLast?_append, getLast?_quoted, Option.some_or] at ends
    cases ends
  intro depth left right rest more same
  cases left with
  | one value =>
      cases right with
      | one other =>
          obtain ⟨rfl, behind⟩ := delimitedItems_assignment "value" depth same
          exact ⟨rfl, behind⟩
      | several values joined => exact absurd same (apart depth value values _ rest more)
  | several values joined =>
      cases right with
      | one other => exact absurd same.symm (apart depth other values _ more rest)
      | several others further =>
          obtain ⟨rfl, behindValues⟩ := (delimitedItems_strings "values").peel same
          obtain ⟨rfl, behind⟩ := delimitedItems_multipleValues depth (peel_same behindValues)
          exact ⟨rfl, behind⟩

theorem valueBlock_injective : Function.Injective valueBlock := by
  have apart : ∀ left ∈ ParameterKind.all, ∀ right ∈ ParameterKind.all,
      valueBlock left = valueBlock right → left = right := by decide
  intro left right same
  exact apart left left.mem_all right right.mem_all same

/-- **The block of a value tells its kind**, and the value is read off what is in it. -/
theorem delimitedItems_value : DelimitedItems fun value : ExportedValue =>
    [.block (valueBlock value.kind) value.items] := by
  refine delimitedItems_block_of fun {left right} headers {depth rest more} same => ?_
  have kinds := valueBlock_injective headers
  cases left with
  | single kind text =>
      cases right with
      | single _ _ =>
          cases kinds
          obtain ⟨rfl, behind⟩ := delimitedItems_assignment "value" depth same
          exact ⟨rfl, behind⟩
      | _ => cases kinds
  | number value =>
      cases right with
      | number _ =>
          obtain ⟨rfl, behind⟩ := delimitedItems_integerAssignment "value" depth same
          exact ⟨rfl, behind⟩
      | _ => cases kinds
  | choice selection options =>
      cases right with
      | choice _ _ =>
          obtain ⟨lines, behindOptions⟩ := (delimitedItems_strings "options").peel same
          obtain ⟨rfl, behind⟩ := delimitedItems_selection depth behindOptions
          rw [linesOf_injective lines]
          exact ⟨rfl, behind⟩
      | _ => cases kinds
  | queryBacked selection queryId =>
      cases right with
      | queryBacked _ _ =>
          obtain ⟨rfl, behindQuery⟩ := (delimitedItems_assignment "query_id").peel same
          obtain ⟨rfl, behind⟩ := delimitedItems_selection depth behindQuery
          exact ⟨rfl, behind⟩
      | _ => cases kinds

/-- **A parameter is read off its block.** -/
theorem delimitedItems_parameter : DelimitedItems fun parameter : ExportedParameter =>
    [parameter.item] := by
  refine delimitedItems_block "parameter" ?_
  rintro depth ⟨name, title, value⟩ ⟨_, _, _⟩ rest more same
  obtain ⟨rfl, behindName⟩ := (delimitedItems_assignment "name").peel same
  obtain ⟨rfl, behindTitle⟩ := (delimitedItems_optionalAssignment "title").peel behindName
  obtain ⟨rfl, behind⟩ := delimitedItems_value depth behindTitle
  exact ⟨rfl, behind⟩

theorem delimitedItems_schedule : DelimitedItems fun interval => [scheduleItem interval] :=
  delimitedItems_block "schedule" (delimitedItems_integerAssignment "interval")

/-- A group with an empty line behind it. -/
theorem delimitedItems_group {α : Type} {item : α → Item}
    (each : DelimitedItems fun x => [item x]) : DelimitedItems fun x => [item x, Item.gap] := by
  intro depth left right rest more same
  obtain ⟨values, behind⟩ := each.peel same
  exact ⟨values, (List.cons.inj behind).2⟩

/-! ## Queries -/

/-- The line behind which the text of a query stands. -/
def textOpener : String := "  query = <<SQL"

/-- **Everything before its text is read off the file of a query**, up to the line that opens the
text. -/
theorem settings_read {query other : ExportedQuery} {rest more : List String}
    (same : Item.added 1 query.settings ++ textOpener :: rest =
      Item.added 1 other.settings ++ textOpener :: more) :
    query.dataSourceId = other.dataSourceId ∧ query.name = other.name ∧
      query.description = other.description ∧ query.tags = other.tags ∧
      query.interval = other.interval ∧ query.parameters = other.parameters ∧ rest = more := by
  have noParameter (rest : List String) : ¬ Starts
      (fun parameter : ExportedParameter => Item.added 1 [parameter.item, Item.gap])
      (Item.added 1 [] ++ textOpener :: rest) := by
    refine not_starts_block ?_
    show some textOpener ≠ _
    decide
  have noSchedule (parameters : List ExportedParameter) (rest : List String) : ¬ Starts
      (fun interval : Int => Item.added 1 [scheduleItem interval, Item.gap])
      (Item.added 1 (parameters.flatMap (fun parameter => [parameter.item, Item.gap]) ++ []) ++
        textOpener :: rest) := by
    refine not_starts_block ?_
    cases parameters with
    | nil =>
        show some textOpener ≠ _
        decide
    | cons parameter parameters =>
        rw [List.append_nil, List.flatMap_cons, List.cons_append, ExportedParameter.item,
          Item.head?_added_block]
        decide
  obtain ⟨dataSources, behindSource⟩ := (delimitedItems_assignment "data_source_id").peel same
  obtain ⟨names, behindName⟩ := (delimitedItems_assignment "name").peel behindSource
  obtain ⟨descriptions, behindDescription⟩ :=
    (delimitedItems_optionalAssignment "description").peel behindName
  obtain ⟨tags, behindTags⟩ := (delimitedItems_strings "tags").peel behindDescription
  obtain ⟨intervals, behindSchedule⟩ := (delimitedItems_group delimitedItems_schedule).peel_flatMap
    (noSchedule query.parameters rest) (noSchedule other.parameters more) (peel_same behindTags)
  obtain ⟨parameters, behind⟩ := (delimitedItems_group delimitedItems_parameter).peel_flatMap
    (noParameter rest) (noParameter more) behindSchedule
  have schedules := congrArg List.head? intervals
  rw [Option.head?_toList, Option.head?_toList] at schedules
  exact ⟨dataSources, names, descriptions, tags, schedules, parameters,
    (List.cons.inj behind).2⟩

/-- The line that opens the resource of a query. -/
def queryHeader (name : String) : String :=
  "resource \"" ++ queryResource ++ "\" \"" ++ name ++ "\"" ++ " \x7b"

theorem queryHeader_injective : Function.Injective queryHeader := by
  intro name other same
  have unbraced := (String.append_left_inj " \x7b").1 same
  have unquoted := (String.append_left_inj "\"").1 unbraced
  exact (String.append_right_inj _).1 unquoted

/-- The lines of the file of a query without visualizations. -/
def ExportedQuery.lines (query : ExportedQuery) : List String :=
  Writer.lineEntry 0 (queryHeader query.resourceName) :: (Item.added 1 query.settings ++
    textOpener :: (linesOf query.text ++ "SQL" :: ["\x7d", ""]))

/-- **What is exported of a query is read off the lines of its file.** -/
theorem ExportedQuery.lines_injective : Function.Injective ExportedQuery.lines := by
  intro query other same
  obtain ⟨headers, behindHeader⟩ := List.cons.inj same
  have resources := queryHeader_injective (Writer.lineEntry_injective 0 headers)
  obtain ⟨dataSources, names, descriptions, tags, intervals, parameters, texts⟩ :=
    settings_read behindHeader
  exact ExportedQuery.ext resources dataSources names descriptions tags intervals parameters
    (linesOf_injective (List.append_cancel_right texts))

/-! ## Files -/

theorem settings_exported {entry : Entry Query} {query : ExportedQuery}
    (exported : entry.exported = .ok query) : Rendering.Settings query.settings := by
  obtain ⟨parameters, made, rfl⟩ := except_map_eq_ok_iff.1 exported
  rw [← querySettings_eq]
  refine settings_querySettings ?_
  rw [mapM_parameterItem, made]
  rfl

/-- **The file of a query without visualizations** has the lines of what is exported of it. -/
theorem exists_exported_of_renderQuery {skipDefaults : Bool} {inventory : Inventory}
    {entry : Entry Query} (bare : inventory.visualizationsFor entry = [])
    (whole : '\n' ∉ entry.resourceName.toList) {file : String}
    (rendered : renderQuery skipDefaults inventory entry = .ok file) :
    ∃ query, entry.exported = .ok query ∧ linesOf file = query.lines := by
  obtain ⟨item, visualizations, made, others, rfl⟩ := renderQuery_eq_ok_iff.1 rendered
  rw [bare, List.mapM_nil] at others
  cases others
  obtain ⟨query, exported, rfl⟩ := queryItem_eq_ok_iff_exported.1 made
  refine ⟨query, exported, ?_⟩
  have named : query.resourceName = entry.resourceName := by
    obtain ⟨_, _, rfl⟩ := except_map_eq_ok_iff.1 exported
    rfl
  have headed : SettingLine (queryHeader query.resourceName) :=
    settingLine_header (uncut_header queryResource (named ▸ whole) (by decide))
  have opening : Writer.lineEntry 1 ("query" ++ " = <<" ++ "SQL") = textOpener := by decide
  have entries : Item.added 0 [query.item] =
      (Writer.lineEntry 0 (queryHeader query.resourceName) :: Item.added 1 query.settings) ++
        textOpener :: ((some query.text).toList ++ "SQL" :: ["\x7d"]) := by
    rw [ExportedQuery.item, resource, Item.added_heredoc_block, Item.added_line, Item.added_line,
      opening]
    rfl
  have plain : ∀ line ∈ Writer.lineEntry 0 (queryHeader query.resourceName) ::
      Item.added 1 query.settings, SettingLine line :=
    List.forall_mem_cons.2 ⟨headed.lineEntry 0, fun line member =>
      settingLine_of_mem_added (settings_exported exported) member⟩
  refine (linesOf_render entries (by decide) (by decide)).trans ?_
  rw [flatMap_linesOf_eq plain, bodyLines_some]
  rfl

/-- **The file of a query without visualizations is read back.**  Let two queries be loaded, by
whatever calls to whatever services, and let neither have a visualization.  If both have files, the
files are the same exactly when the same is exported of both queries: no choice of names, texts or
values makes a file that says two things. -/
theorem renderQuery_decodable {calls otherCalls : List LoadCall} {entry other : Entry Query}
    (loaded : entry ∈ (Inventory.reached calls).queries)
    (otherLoaded : other ∈ (Inventory.reached otherCalls).queries)
    (bare : (Inventory.reached calls).visualizationsFor entry = [])
    (otherBare : (Inventory.reached otherCalls).visualizationsFor other = [])
    {skipDefaults otherSkips : Bool} {file otherFile : String}
    (rendered : renderQuery skipDefaults (Inventory.reached calls) entry = .ok file)
    (otherRendered : renderQuery otherSkips (Inventory.reached otherCalls) other =
      .ok otherFile) :
    ∃ query otherQuery, entry.exported = .ok query ∧ other.exported = .ok otherQuery ∧
      (file = otherFile ↔ query = otherQuery) := by
  have whole {calls : List LoadCall} {entry : Entry Query}
      (loaded : entry ∈ (Inventory.reached calls).queries) : '\n' ∉ entry.resourceName.toList :=
    ((ownerTokens_reached calls).queries entry loaded).not_mem rfl
  obtain ⟨query, exported, lines⟩ :=
    exists_exported_of_renderQuery bare (whole loaded) rendered
  obtain ⟨otherQuery, otherExported, otherLines⟩ :=
    exists_exported_of_renderQuery otherBare (whole otherLoaded) otherRendered
  refine ⟨query, otherQuery, exported, otherExported, fun same => ?_, fun same => ?_⟩
  · rw [same, otherLines] at lines
    exact (ExportedQuery.lines_injective lines).symm
  · refine linesOf_injective ?_
    rw [lines, otherLines, same]

/-- A query with a name of two lines, a number with a fraction, two values where one is written,
and a text with a line that closes its document. -/
def fractionQuery : Query where
  id := "q"
  dataSourceId := "ds"
  name := "Sales\n\"by day\""
  description := none
  text := "SELECT 1\nSQL\n\x7d"
  schedule := some ⟨3600⟩
  options := ⟨[⟨"limit", none, .number (some (Binary64.ofRatio true 3 2 (by decide)))⟩,
    ⟨"unit", some "Unit", .choice ⟨["day", "week"], none⟩ "day\nweek"⟩]⟩
  tags := ["]", "a\nb"]
  visualizations := []

/-- Another query, of another service, of which the same is exported. -/
def otherFractionQuery : Query :=
  { fractionQuery with
    id := "r"
    description := some ""
    options := ⟨[⟨"limit", some "", .number (some (Binary64.ofRatio true 5 4 (by decide)))⟩,
      ⟨"unit", some "Unit", .choice ⟨["day"], none⟩ "day\nweek"⟩]⟩ }

/-- The call that loads a query from a service that has no other. -/
def loneCalls (query : Query) : List LoadCall :=
  [⟨servingFetcher [] [query], .query, query.id⟩]

/-- A query as it stands in the inventory then. -/
def loneEntry (query : Query) : Entry Query := ⟨query.id, "sales__by_day_", query⟩

theorem renderQuery_decodable_fractions :
    fractionQuery.options ≠ otherFractionQuery.options ∧
      ∃ file query,
        renderQuery true (Inventory.reached (loneCalls fractionQuery)) (loneEntry fractionQuery) =
          .ok file ∧
        renderQuery false (Inventory.reached (loneCalls otherFractionQuery))
          (loneEntry otherFractionQuery) = .ok file ∧
        (loneEntry fractionQuery).exported = .ok query ∧
        (loneEntry otherFractionQuery).exported = .ok query := by
  have loaded : loneEntry fractionQuery ∈ (Inventory.reached (loneCalls fractionQuery)).queries := by
    decide +kernel
  have otherLoaded : loneEntry otherFractionQuery ∈
      (Inventory.reached (loneCalls otherFractionQuery)).queries := by decide +kernel
  have bare : (Inventory.reached (loneCalls fractionQuery)).visualizationsFor
      (loneEntry fractionQuery) = [] := by decide +kernel
  have otherBare : (Inventory.reached (loneCalls otherFractionQuery)).visualizationsFor
      (loneEntry otherFractionQuery) = [] := by decide +kernel
  have written : (renderQuery true (Inventory.reached (loneCalls fractionQuery))
      (loneEntry fractionQuery)).toOption.isSome = true := by decide +kernel
  have otherWritten : (renderQuery false (Inventory.reached (loneCalls otherFractionQuery))
      (loneEntry otherFractionQuery)).toOption.isSome = true := by decide +kernel
  have same : (loneEntry otherFractionQuery).exported = (loneEntry fractionQuery).exported := by
    decide +kernel
  obtain ⟨file, rendered⟩ := exists_ok_of_isSome written
  obtain ⟨otherFile, otherRendered⟩ := exists_ok_of_isSome otherWritten
  obtain ⟨query, otherQuery, exported, otherExported, decodes⟩ :=
    renderQuery_decodable loaded otherLoaded bare otherBare rendered otherRendered
  have queries : query = otherQuery := Except.ok.inj (exported.symm.trans (same ▸ otherExported))
  rw [← queries] at otherExported
  rw [← decodes.2 queries] at otherRendered
  exact ⟨by decide +kernel, file, query, rendered, otherRendered, exported, otherExported⟩

end DashboardExport
