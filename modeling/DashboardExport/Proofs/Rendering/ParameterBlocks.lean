import DashboardExport.Proofs.Binary64.Integers
import DashboardExport.Proofs.Model.Parameters
import DashboardExport.Proofs.Rendering.Failures
import DashboardExport.Proofs.Rendering.Texts

/-!
# Blocks of parameters

In the file of a query each parameter has a block, in the order of the parameters and right
before the text of the query.  The block has the name and the title of the parameter and,
in an inner block for its kind, the lines of its value (`exists_blocks`).

The value of a number is a single line.  An integer that was given for it went through a
number on its way there, so what the line shows is the nearest integer with the bits of a
number, which is the given one exactly when that has no more bits (`integer_written`).
-/

set_option autoImplicit false

namespace DashboardExport.Rendering

open Binary64 (FitsBits Nearest)
open Decoding (Members)
open Hcl (Item Writer)
open Text (quoted)

/-! ## Blocks -/

/-- The line of a title that is there and not empty. -/
def titleLines : Option String → List String
  | none => []
  | some title => if title.isEmpty then [] else ["    title = " ++ quoted title]

/-- The lines of a parameter in the file of a query, around those of its value. -/
def blockLines (parameter : Parameter) (values : List String) : List String :=
  ["", "  parameter \x7b", "    name = " ++ quoted parameter.name] ++ titleLines parameter.title ++
    ["", "    " ++ valueBlock parameter.kind ++ " \x7b"] ++ values ++ ["    \x7d", "  \x7d"]

theorem added_assignment (depth : Nat) (key value : String) :
    Item.added depth [.assignment key value] =
      [Writer.indentation depth ++ (key ++ " = ") ++ quoted value] :=
  congrArg ([·]) (Writer.lineEntry_append depth _ (quoted_ne_empty value))

theorem added_integerAssignment (depth : Nat) (key : String) (value : Int) :
    Item.added depth [integerAssignment key value] =
      [Writer.indentation depth ++ (key ++ " = ") ++ toString value] :=
  congrArg ([·]) (Writer.lineEntry_append depth _ (toString_ne_empty value))

theorem added_header (depth : Nat) (header : String) :
    Item.added depth [.line (header ++ " \x7b")] =
      [Writer.indentation depth ++ header ++ " \x7b"] :=
  congrArg ([·]) (Writer.lineEntry_append depth header (by decide))

theorem added_title (title : Option String) :
    Item.added 2 (optionalAssignment "title" title) = titleLines title := by
  cases title with
  | none => rfl
  | some text =>
      rw [optionalAssignment, titleLines]
      split_ifs
      · rfl
      · rw [added_assignment]
        rfl

/-- **The block of a parameter, line by line.** -/
theorem added_parameterItem {parameter : Parameter} {item : Item}
    (made : parameterItem parameter = .ok item) :
    ∃ items, valueItems parameter.value = .ok items ∧
      Item.added 1 [Item.gap, item] = blockLines parameter (Item.added 3 items) := by
  obtain ⟨items, valued, made⟩ := except_bind_eq_ok_iff.1 made
  refine ⟨items, valued, ?_⟩
  cases made
  rw [Item.added_cons, Item.added_block, Item.added_append, Item.added_cons 2, added_title,
    Item.added_cons 2 Item.gap, Item.added_block, added_assignment, added_header, added_header,
    blockLines]
  simp only [List.append_assoc, List.cons_append, List.nil_append]
  rfl

/-! ## The file of a query -/

/-- The parameters are the last of the settings of a query. -/
theorem exists_querySettings_eq (query : Query) (parameters : List Item) :
    ∃ ahead, querySettings query parameters = ahead ++ (apart parameters ++ [Item.gap]) := by
  rw [querySettings, apart, apart, List.flatMap_append, ← List.append_assoc, List.append_assoc]
  exact ⟨_, rfl⟩

theorem linesBefore_append (earlier : List Item) (header : String) (settings more : List Item) :
    linesBefore earlier header (settings ++ more) =
      linesBefore earlier header settings ++ (Item.added 1 more).flatMap linesOf := by
  rw [linesBefore, linesBefore, Item.added_append, ← List.flatMap_append]
  simp only [List.append_assoc]

/-- Items that are settings have the lines of their entries. -/
theorem flatMap_linesOf_apart {items : List Item} (each : ∀ item ∈ items, Settings [item]) :
    (Item.added 1 (apart items)).flatMap linesOf =
      (items.map fun item => Item.added 1 [Item.gap, item]).flatten := by
  rw [apart, Item.added_flatMap, List.flatMap_assoc, ← List.flatMap_def]
  refine List.flatMap_congr fun item member => ?_
  exact flatMap_linesOf_eq fun _ =>
    settingLine_of_mem_added (settings_cons settings_gap (each item member))

/-- The lines of a query's file: its settings come first, and then its text. -/
theorem exists_lines_of_renderQuery {skipDefaults : Bool} {inventory : Inventory}
    {entry : Entry Query} {file : String}
    (rendered : renderQuery skipDefaults inventory entry = .ok file) :
    ∃ header parameters back, entry.object.options.parameters.mapM parameterItem = .ok parameters ∧
      linesOf file =
        linesBefore [] header (querySettings entry.object parameters) ++
          "  query = <<SQL" :: back ∧
      ('\n' ∉ entry.resourceName.toList → "  query = <<SQL" ∉
        linesBefore [] header (querySettings entry.object parameters)) := by
  obtain ⟨_, visualizations, first, -, rfl⟩ := renderQuery_eq_ok_iff.1 rendered
  obtain ⟨parameters, made, rfl⟩ := queryItem_eq_ok_iff.1 first
  refine ⟨_, parameters, _, made,
    @linesOf_render_block [] _ [] _ _ "query" "SQL" _ "  query = <<SQL" (by decide) (by decide)
      (by decide), fun whole => ?_⟩
  exact opener_not_mem_linesBefore (uncut_header queryResource whole (by decide))
    (settings_querySettings made) (by decide)

/-- **The file of a query holds the blocks of its parameters**, one for each of them and in their
order, right before the text of the query. -/
theorem exists_blocks {skipDefaults : Bool} {inventory : Inventory} {entry : Entry Query}
    {file : String} (rendered : renderQuery skipDefaults inventory entry = .ok file) :
    ∃ front blocks back,
      linesOf file = front ++ blocks.flatten ++ "" :: "  query = <<SQL" :: back ∧
      ('\n' ∉ entry.resourceName.toList → "  query = <<SQL" ∉ front ++ blocks.flatten) ∧
      List.Forall₂ (fun parameter block => ∃ items, valueItems parameter.value = .ok items ∧
          block = blockLines parameter (Item.added 3 items))
        entry.object.options.parameters blocks := by
  obtain ⟨header, items, back, made, lines, apart⟩ := exists_lines_of_renderQuery rendered
  obtain ⟨ahead, settings⟩ := exists_querySettings_eq entry.object items
  have blocks : (Item.added 1 (Rendering.apart items)).flatMap linesOf =
      (items.map fun item => Item.added 1 [Item.gap, item]).flatten := by
    refine flatMap_linesOf_apart fun item member => ?_
    obtain ⟨_, _, itemMade⟩ := exists_mem_of_mapM_eq_ok made member
    exact settings_of_parameterItem itemMade
  have before : linesBefore [] header (querySettings entry.object items) =
      linesBefore [] header ahead ++
        (items.map fun item => Item.added 1 [Item.gap, item]).flatten ++ [""] := by
    rw [settings, linesBefore_append, Item.added_append, List.flatMap_append, blocks,
      List.append_assoc]
    rfl
  rw [before] at lines apart
  refine ⟨linesBefore [] header ahead, items.map fun item => Item.added 1 [Item.gap, item], back,
    ?_, fun whole member => ?_, ?_⟩
  · rw [lines, List.append_assoc _ [""]]
    rfl
  · exact apart whole (List.mem_append_left _ member)
  · refine List.forall₂_map_right_iff.2 ((mapM_eq_ok_iff.1 made).imp fun _ item itemMade => ?_)
    exact added_parameterItem itemMade

/-! ## Numbers -/

theorem wholeNumber_eq_ok_iff {x : Binary64} {n : Int} :
    wholeNumber (some x) = .ok n ↔ x.truncate? = some n := by
  rw [wholeNumber]
  split
  · next read => simp [read]
  · next none => simp [none]

/-- The lines of a number are a single one. -/
theorem added_number {x : Binary64} {n : Int} (read : x.truncate? = some n) {items : List Item}
    (valued : valueItems (.number (some x)) = .ok items) :
    Item.added 3 items = ["      value = " ++ toString n] := by
  rw [valueItems, wholeNumber_eq_ok_iff.2 read] at valued
  cases valued
  rw [added_integerAssignment]
  rfl

/-- **Integers are written as the nearest integers with the bits of a number.**  An integer stands
as the value of a number parameter that is accepted.  Then nothing keeps the parameter from being
written.  In every file of a query the blocks of the parameters stand right before the text, and the
block of this one has a single line for its value.  The integer in this line is the one nearest to
the given one among those with at most 53 significant bits.  It is the given one exactly when that
has no more bits itself. -/
theorem integer_written {members : Members} {n : Int} {parameter : Parameter}
    (typed : members.lookup "type" = some (.str "number"))
    (given : members.lookup "value" = some (.int n))
    (accepted : Parameter.decode (.obj members) = .value parameter) :
    ∃ written, Nearest n written ∧ (written = n ↔ FitsBits 53 n) ∧
      (n.natAbs ≤ 2 ^ 53 → written = n) ∧ parameter.kind = .number ∧
      (∃ item, parameterItem parameter = .ok item) ∧
      ∀ (skipDefaults : Bool) (inventory : Inventory) (entry : Entry Query) (file : String),
        renderQuery skipDefaults inventory entry = .ok file →
        ∃ front blocks back,
          linesOf file = front ++ blocks.flatten ++ "" :: "  query = <<SQL" :: back ∧
          ('\n' ∉ entry.resourceName.toList → "  query = <<SQL" ∉ front ++ blocks.flatten) ∧
          List.Forall₂ (fun other block => ∃ values, block = blockLines other values ∧
              (other = parameter → values = ["      value = " ++ toString written]))
            entry.object.options.parameters blocks := by
  obtain ⟨finite, value⟩ := @Parameter.value_of_integer members n parameter typed given accepted
  obtain ⟨written, read⟩ : ∃ written, (Binary64.ofInt n).truncate? = some written := by
    refine Option.ne_none_iff_exists'.1 fun none => ?_
    rw [Binary64.truncate?_eq_none_iff, finite] at none
    cases none
  have near := Binary64.nearest_of_truncate?_ofInt read
  refine ⟨written, near, near.eq_iff, fun small => ?_, ?_, ?_, ?_⟩
  · exact near.eq_iff.2 (Binary64.fitsBits_of_natAbs_le (by decide) small)
  · rw [Parameter.kind, value]
    rfl
  · rw [← nonFinite?_eq_none_iff, Parameter.nonFinite?, value]
    exact if_pos finite
  · intro skipDefaults inventory entry file rendered
    obtain ⟨front, blocks, back, lines, first, each⟩ := exists_blocks rendered
    refine ⟨front, blocks, back, lines, first, each.imp ?_⟩
    rintro other block ⟨items, valued, rfl⟩
    refine ⟨_, rfl, ?_⟩
    rintro rfl
    rw [value] at valued
    exact added_number read valued

/-- A query with a single parameter. -/
def parameterQuery (parameter : Parameter) : Entry Query where
  remoteId := "1"
  resourceName := "sales"
  object :=
    { id := "1", dataSourceId := "2", name := "Sales", description := none, text := "SELECT 1",
      schedule := none, options := ⟨[parameter]⟩, tags := [], visualizations := [] }

/-- The payload of a number parameter whose value is an integer. -/
def limitMembers (n : Int) : Members :=
  [("name", .str "limit"), ("type", .str "number"), ("value", .int n)]

/-- The parameter that it is decoded to. -/
def limitParameter (n : Int) : Parameter := ⟨"limit", none, .number (some (Binary64.ofInt n))⟩

/-- An integer between two that are equally near is written as the one with the even significand. -/
theorem integer_written_tie :
    ∃ file front back, renderQuery true Inventory.empty
        (parameterQuery (limitParameter 9007199254740995)) = .ok file ∧
      linesOf file = front ++
        blockLines (limitParameter 9007199254740995) ["      value = 9007199254740996"] ++
          "" :: "  query = <<SQL" :: back := by
  obtain ⟨file, rendered⟩ : ∃ file, renderQuery true Inventory.empty
      (parameterQuery (limitParameter 9007199254740995)) = .ok file := ⟨_, rfl⟩
  obtain ⟨written, near, -, -, -, -, files⟩ :=
    @integer_written (limitMembers 9007199254740995) 9007199254740995
      (limitParameter 9007199254740995) rfl rfl rfl
  have read : (Binary64.ofInt 9007199254740995).truncate? = some 9007199254740996 := by
    decide +kernel
  obtain rfl := near.unique (Binary64.nearest_of_truncate?_ofInt read)
  obtain ⟨front, blocks, back, lines, -, each⟩ := files _ _ _ _ rendered
  cases each with
  | cons here none =>
      obtain ⟨values, rfl, single⟩ := here
      cases none
      rw [single rfl, List.flatten_singleton] at lines
      exact ⟨file, front, back, rendered, lines⟩

/-- The file of the query, with a text for the value of its parameter. -/
def limitFile (value : String) : String :=
  "resource \"databricks_sql_query\" \"sales\" \x7b\n  data_source_id = \"2\"\n" ++
    "  name = \"Sales\"\n\n  tags = [\n  ]\n\n" ++
    "  parameter \x7b\n    name = \"limit\"\n\n    number \x7b\n      value = " ++ value ++
    "\n    \x7d\n  \x7d\n\n  query = <<SQL\nSELECT 1\nSQL\n\x7d\n"

/-- **An integer with more bits is written as another one**, without a failure. -/
theorem integer_written_otherwise :
    Parameter.decode (.obj (limitMembers 9007199254740993)) =
        .value (limitParameter 9007199254740993) ∧
      renderQuery true Inventory.empty (parameterQuery (limitParameter 9007199254740993)) =
        .ok (limitFile "9007199254740992") ∧
      limitFile "9007199254740992" ≠ limitFile "9007199254740993" := by
  refine ⟨rfl, by decide +kernel, fun same => ?_⟩
  have values := (String.append_right_inj _).1 ((String.append_left_inj _).1 same)
  exact absurd values (by decide +kernel)

end DashboardExport.Rendering
