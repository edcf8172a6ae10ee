import DashboardExport.Proofs.Hcl.Lines
import DashboardExport.Proofs.Json.Lines
import DashboardExport.Proofs.Rendering.ConfigurationLines
import DashboardExport.Proofs.Rendering.Files

/-!
# Settings

Around its references and here documents a resource consists of settings: assignments of
texts and integers, lists of texts, and blocks of those.  Whatever a setting holds, its
lines hold no line end, and each of them ends in a quotation mark, a bracket, a comma or
a digit, and never in a word behind `<<` (`SettingLine`).  So no line of a setting refers
to a resource, none opens a here document, and settings are read as they are written
(`Settings.reads`).
-/

set_option autoImplicit false

namespace DashboardExport.Rendering

open Hcl (Item Writer)
open Text (Uncut quoted)

/-! ## Lines of settings -/

/-- Whether the line of a setting can end in a character. -/
def endsSetting (c : Char) : Bool := ['"', '[', ']', '{', '}', ','].contains c || c.isDigit

/-- A line that a setting can write: an empty one, or one that ends as the line of a setting. -/
structure SettingLine (line : String) : Prop where
  whole : Uncut (· == '\n') line.toList
  last : line.toList.getLast?.all endsSetting = true
  bounded : line ≠ "" → Bounded line

theorem SettingLine.append {left right : String} (joins : Uncut (· == '\n') left.toList)
    (ends : SettingLine right) (something : right ≠ "") : SettingLine (left ++ right) := by
  have nonempty : right.toList ≠ [] := by simpa using something
  refine ⟨?_, ?_, fun _ => (ends.bounded something).append left⟩
  · rw [String.toList_append]
    exact Text.uncut_append.2 ⟨joins, ends.whole⟩
  · rw [String.toList_append, List.getLast?_append_of_ne_nil _ nonempty]
    exact ends.last

/-- The line of a setting opens no here document. -/
theorem SettingLine.opened?_eq_none {line : String} (setting : SettingLine line) :
    opened? line = none := by
  by_cases empty : line = ""
  · rw [empty]
    decide
  · exact Rendering.opened?_eq_none (setting.bounded empty)

theorem getLast?_quoted (text : String) : (quoted text).toList.getLast? = some '"' := by
  rw [quoted, String.toList_ofList, Text.quotedChars, ← List.cons_append, List.getLast?_concat]

theorem settingLine_quoted (text : String) : SettingLine (quoted text) := by
  refine ⟨?_, ?_, fun _ => ?_⟩
  · rw [quoted, String.toList_ofList]
    exact (Json.visible_quotedChars text.toList).uncut
  · rw [getLast?_quoted]
    rfl
  · obtain ⟨front, same⟩ := List.getLast?_eq_some_iff.1 (getLast?_quoted text)
    exact bounded_iff.2 ⟨front, '"', [], same, by decide, by decide, by simp⟩

theorem quoted_ne_empty (text : String) : quoted text ≠ "" := by
  intro empty
  have none := congrArg String.toList empty
  rw [quoted, String.toList_ofList] at none
  exact List.cons_ne_nil _ _ none

theorem toString_ne_empty (n : Int) : toString n ≠ "" := by
  intro empty
  have none := congrArg String.toList empty
  rw [Json.toList_toString_int] at none
  split_ifs at none
  · exact List.cons_ne_nil _ _ none
  · exact Nat.toDigits_ne_nil none

theorem endsSetting_toString (n : Int) :
    (toString n).toList.getLast?.all endsSetting = true := by
  rw [Json.toList_toString_int, Option.all_eq_true]
  intro c last
  have digit (given : c ∈ (Nat.toDigits 10 n.natAbs).getLast?) : endsSetting c = true := by
    have inside := Json.digits_toDigits n.natAbs c (List.mem_of_getLast? given)
    rw [endsSetting, inside, Bool.or_true]
  split_ifs at last
  · rw [List.getLast?_cons_of_ne_nil Nat.toDigits_ne_nil] at last
    exact digit last
  · exact digit last

/-- A digit is no mark. -/
theorem isWordChar_of_isDigit {c : Char} (digit : c.isDigit = true) : isWordChar c = true := by
  have noMark : isMark c = false := by
    refine Bool.eq_false_iff.2 fun mark => ?_
    rw [isMark, List.contains_iff_mem] at mark
    have noDigits : Uncut Char.isDigit ['"', '[', ']', '{', '}', ',', '.', '=', '<'] := by decide
    exact Bool.false_ne_true ((noDigits c mark).symm.trans digit)
  rw [isWordChar, Text.isBlank_of_isDigit digit, noMark]
  rfl

theorem isWordChar_of_mem_toString (n : Int) {c : Char} (member : c ∈ (toString n).toList) :
    isWordChar c = true := by
  have digit (inside : c ∈ Nat.toDigits 10 n.natAbs) : isWordChar c = true :=
    isWordChar_of_isDigit (Json.digits_toDigits n.natAbs c inside)
  rw [Json.toList_toString_int] at member
  split_ifs at member
  · rcases List.mem_cons.1 member with sign | inside
    · rw [sign]
      decide
    · exact digit inside
  · exact digit member

/-- What an assignment of an integer writes behind its key. -/
theorem settingLine_integer (n : Int) : SettingLine (" = " ++ toString n) := by
  have nonempty : (toString n).toList ≠ [] := by simpa using toString_ne_empty n
  refine ⟨?_, ?_, fun _ => ?_⟩
  · rw [String.toList_append]
    exact Text.uncut_append.2 ⟨by decide, (Json.visible_toString n).uncut⟩
  · rw [String.toList_append, List.getLast?_append_of_ne_nil _ nonempty]
    exact endsSetting_toString n
  · exact bounded_iff.2 ⟨[' ', '='], ' ', (toString n).toList, String.toList_append, by decide,
      by decide, fun c member => isWordChar_of_mem_toString n member⟩

theorem uncut_indentation (depth : Nat) :
    Uncut (· == '\n') (Writer.indentation depth).toList := by
  intro c member
  rw [Writer.indentation, String.toList_ofList] at member
  rw [List.eq_of_mem_replicate member]
  rfl

/-- Indenting the line of a setting leaves it one. -/
theorem SettingLine.lineEntry {line : String} (setting : SettingLine line) (depth : Nat) :
    SettingLine (Writer.lineEntry depth line) := by
  rw [Writer.lineEntry]
  split_ifs with empty
  · exact ⟨by decide, by decide, by decide⟩
  · refine SettingLine.append (uncut_indentation depth) setting ?_
    intro none
    rw [none] at empty
    exact empty rfl

/-- A text without a line end is one line. -/
theorem linesOf_of_uncut {line : String} (whole : Uncut (· == '\n') line.toList) :
    linesOf line = [line] := by
  rw [linesOf, Text.splitAtEvery_of_uncut whole, List.map_singleton, String.ofList_toList]

theorem SettingLine.linesOf_eq {line : String} (setting : SettingLine line) :
    linesOf line = [line] := linesOf_of_uncut setting.whole

/-- The first line of a block is like the line of a setting. -/
theorem settingLine_header {header : String} (whole : Uncut (· == '\n') header.toList) :
    SettingLine (header ++ " \x7b") :=
  .append whole ⟨by decide, by decide, by decide⟩ (by decide)

theorem uncut_header {name : String} (type : String) (whole : '\n' ∉ name.toList)
    (typed : Uncut (· == '\n') type.toList) :
    Uncut (· == '\n') ("resource \"" ++ type ++ "\" \"" ++ name ++ "\"").toList := by
  simp only [String.toList_append, Text.uncut_append]
  refine ⟨⟨⟨⟨by decide, typed⟩, by decide⟩, fun c member => ?_⟩, by decide⟩
  refine beq_false_of_ne ?_
  rintro rfl
  exact whole member

theorem flatMap_linesOf_eq {entries : List String} (each : ∀ entry ∈ entries, SettingLine entry) :
    entries.flatMap linesOf = entries := by
  rw [List.flatMap_congr fun entry member => (each entry member).linesOf_eq,
    List.flatMap_singleton']

/-! ## Items that are settings -/

/-- Items that write nothing but lines of settings. -/
structure Settings (items : List Item) : Prop where
  lines : ∀ line ∈ Item.linesAll items, SettingLine line
  texts : Item.verbatimsAll items = []

theorem settings_nil : Settings [] := ⟨fun _ member => absurd member List.not_mem_nil, rfl⟩

theorem settings_append {left right : List Item} (first : Settings left) (second : Settings right) :
    Settings (left ++ right) := by
  constructor
  · rw [Item.linesAll_append]
    exact List.forall_mem_append.2 ⟨first.lines, second.lines⟩
  · rw [Item.verbatimsAll_append, first.texts, second.texts, List.append_nil]

theorem settings_cons {item : Item} {rest : List Item} (first : Settings [item])
    (second : Settings rest) : Settings (item :: rest) := settings_append first second

/-- An item that is a line. -/
theorem settings_line {text : String} (setting : SettingLine text) : Settings [.line text] := by
  refine ⟨fun line member => ?_, rfl⟩
  rw [List.mem_singleton.1 member]
  exact setting

theorem settings_gap : Settings [Item.gap] := settings_line ⟨by decide, by decide, by decide⟩

theorem settings_apart {groups : List Item} (each : ∀ item ∈ groups, Settings [item]) :
    Settings (apart groups) := by
  induction groups with
  | nil => exact settings_nil
  | cons item rest ih =>
      have later := ih fun other member => each other (List.mem_cons_of_mem item member)
      exact settings_cons settings_gap (settings_cons (each item List.mem_cons_self) later)

theorem settings_assignment {key : String} (whole : Uncut (· == '\n') key.toList)
    (value : String) : Settings [.assignment key value] := by
  refine ⟨fun line member => ?_, rfl⟩
  rw [List.mem_singleton.1 member]
  refine .append ?_ (settingLine_quoted value) (quoted_ne_empty value)
  rw [String.toList_append]
  exact Text.uncut_append.2 ⟨whole, by decide⟩

theorem settings_optionalAssignment {key : String} (whole : Uncut (· == '\n') key.toList)
    (value : Option String) : Settings (optionalAssignment key value) := by
  cases value with
  | none => exact settings_nil
  | some text =>
      rw [optionalAssignment]
      split_ifs
      · exact settings_nil
      · exact settings_assignment whole text

theorem settings_integerAssignment {key : String} (whole : Uncut (· == '\n') key.toList)
    (value : Int) : Settings [integerAssignment key value] := by
  have something : " = " ++ toString value ≠ "" := by
    rw [Ne, String.append_eq_empty_iff]
    exact fun both => toString_ne_empty value both.2
  have line := SettingLine.append whole (settingLine_integer value) something
  rw [← String.append_assoc] at line
  exact settings_line line

theorem settings_strings {key : String} (whole : Uncut (· == '\n') key.toList)
    (values : List String) : Settings [.strings key values] := by
  refine ⟨fun line member => ?_, rfl⟩
  rw [Item.linesAll_cons, Item.linesAll_nil, List.append_nil, Item.lines] at member
  rcases List.mem_cons.1 member with opening | inside
  · rw [opening]
    exact .append whole ⟨by decide, by decide, by decide⟩ (by decide)
  · rcases List.mem_append.1 inside with item | closing
    · obtain ⟨value, _, rfl⟩ := List.mem_map.1 item
      exact .append (settingLine_quoted value).whole ⟨by decide, by decide, by decide⟩ (by decide)
    · rw [List.mem_singleton.1 closing]
      exact ⟨by decide, by decide, by decide⟩

theorem settings_block {header : String} (whole : Uncut (· == '\n') header.toList)
    {items : List Item} (inside : Settings items) : Settings [.block header items] := by
  constructor
  · rw [Item.linesAll_cons, Item.linesAll_nil, List.append_nil, Item.lines]
    refine List.forall_mem_cons.2 ⟨settingLine_header whole, ?_⟩
    refine List.forall_mem_append.2 ⟨inside.lines, ?_⟩
    exact List.forall_mem_singleton.2 ⟨by decide, by decide, by decide⟩
  · rw [Item.verbatimsAll_cons, Item.verbatimsAll_nil, List.append_nil]
    exact inside.texts

/-- **Every entry of settings is the line of a setting**, which the indentation keeps. -/
theorem settingLine_of_mem_added {items : List Item} (settings : Settings items) {depth : Nat}
    {entry : String} (member : entry ∈ Item.added depth items) : SettingLine entry := by
  rcases Item.writtenAll_of_mem items depth member with ⟨line, inside, level, rfl⟩ | text
  · exact (settings.lines line inside).lineEntry level
  · rw [settings.texts] at text
    exact absurd text List.not_mem_nil

/-- The line of a setting is read as it is written. -/
theorem SettingLine.reads {line : String} (setting : SettingLine line) : Reads [line] [line] :=
  reads_line setting.linesOf_eq setting.opened?_eq_none

/-- **Settings are read as they are written.** -/
theorem Settings.reads {items : List Item} (settings : Settings items) (depth : Nat) :
    Reads (Item.added depth items) (Item.added depth items) :=
  reads_lines fun _ member =>
    have setting := settingLine_of_mem_added settings member
    ⟨setting.linesOf_eq, setting.opened?_eq_none⟩

/-! ## The settings of queries, visualizations and widgets -/

theorem settings_selectionItems (selection : Selection) : Settings (selectionItems selection) := by
  rw [selectionItems]
  split
  · exact settings_assignment (by decide) _
  · refine settings_cons (settings_strings (by decide) _) (settings_cons settings_gap ?_)
    refine settings_block (by decide) ?_
    exact settings_cons (settings_assignment (by decide) _)
      (settings_cons (settings_assignment (by decide) _) (settings_assignment (by decide) _))

theorem settings_of_valueItems {value : ParameterValue} {items : List Item}
    (made : valueItems value = .ok items) : Settings items := by
  cases value with
  | single kind text =>
      cases made
      exact settings_assignment (by decide) text
  | number value =>
      obtain ⟨n, _, made⟩ := except_bind_eq_ok_iff.1 made
      cases made
      exact settings_integerAssignment (by decide) n
  | choice selection options =>
      cases made
      exact settings_cons (settings_strings (by decide) _) (settings_selectionItems selection)
  | queryBacked selection queryId =>
      cases made
      exact settings_cons (settings_assignment (by decide) _) (settings_selectionItems selection)

theorem uncut_valueBlock (kind : ParameterKind) : Uncut (· == '\n') (valueBlock kind).toList := by
  rcases kind with single | _ | _ | _
  · cases single <;> decide
  all_goals decide

/-- **The block of a query's parameter is a setting**, whatever its texts are. -/
theorem settings_of_parameterItem {parameter : Parameter} {item : Item}
    (made : parameterItem parameter = .ok item) : Settings [item] := by
  obtain ⟨value, valueMade, made⟩ := except_bind_eq_ok_iff.1 made
  cases made
  refine settings_block (by decide) (settings_cons (settings_assignment (by decide) _) ?_)
  refine settings_append (settings_optionalAssignment (by decide) _) (settings_cons settings_gap ?_)
  exact settings_block (uncut_valueBlock parameter.kind) (settings_of_valueItems valueMade)

/-- **What a query writes before its text are settings.** -/
theorem settings_querySettings {query : Query} {parameters : List Item}
    (made : query.options.parameters.mapM parameterItem = .ok parameters) :
    Settings (querySettings query parameters) := by
  refine settings_append (settings_append (settings_append (settings_append ?_ ?_) ?_) ?_)
    settings_gap
  · exact settings_cons (settings_assignment (by decide) _) (settings_assignment (by decide) _)
  · exact settings_optionalAssignment (by decide) _
  · exact settings_cons settings_gap (settings_strings (by decide) _)
  · refine settings_apart fun item member => ?_
    rcases List.mem_append.1 member with scheduled | parameter
    · obtain ⟨schedule, _, rfl⟩ := Option.map_eq_some_iff.1 (Option.mem_toList.1 scheduled)
      exact settings_block (by decide) (settings_integerAssignment (by decide) _)
    · obtain ⟨_, _, itemMade⟩ := exists_mem_of_mapM_eq_ok made parameter
      exact settings_of_parameterItem itemMade

/-- What a visualization writes between its reference and its options are settings. -/
theorem settings_visualization (visualization : Visualization) :
    Settings ([.assignment "type" visualization.lowerType,
      .assignment "name" visualization.name] ++
        optionalAssignment "description" visualization.description ++ [Item.gap]) := by
  refine settings_append (settings_append ?_ ?_) settings_gap
  · exact settings_cons (settings_assignment (by decide) _) (settings_assignment (by decide) _)
  · exact settings_optionalAssignment (by decide) _

theorem settings_positionItem (position : WidgetPosition) : Settings [positionItem position] := by
  refine settings_block (by decide) ?_
  refine settings_cons (settings_integerAssignment (by decide) _) ?_
  refine settings_cons (settings_integerAssignment (by decide) _) ?_
  exact settings_cons (settings_integerAssignment (by decide) _)
    (settings_integerAssignment (by decide) _)

/-- **The block of a widget's parameter is a setting**, whatever its texts are. -/
theorem settings_of_mappingItem {widgetName : String} {mapping : ParameterMapping} {item : Item}
    (made : mappingItem widgetName mapping = .ok item) : Settings [item] := by
  obtain ⟨value, valueMade, made⟩ := except_bind_eq_ok_iff.1 made
  cases made
  have valueSettings : Settings value := by
    rw [mappingValue] at valueMade
    split at valueMade
    · cases valueMade
      exact settings_nil
    · cases valueMade
      exact settings_assignment (by decide) _
    · cases valueMade
  refine settings_block (by decide) (settings_append ?_ valueSettings)
  refine settings_append (settings_append ?_ ?_) ?_
  · exact settings_cons (settings_assignment (by decide) _) (settings_assignment (by decide) _)
  · exact settings_optionalAssignment (by decide) _
  · exact settings_optionalAssignment (by decide) _

/-- **What a widget writes behind its content are settings.** -/
theorem settings_placement {widgetName : String} {options : WidgetOptions} {mappings : List Item}
    (made : (options.mappings.mapM fun mapping => mappingItem widgetName mapping.2) =
      .ok mappings) : Settings (placement options mappings) := by
  refine settings_apart fun item member => ?_
  rcases List.mem_append.1 member with placed | mapping
  · obtain ⟨position, _, rfl⟩ := Option.map_eq_some_iff.1 (Option.mem_toList.1 placed)
    exact settings_positionItem position
  · obtain ⟨_, _, itemMade⟩ := exists_mem_of_mapM_eq_ok made mapping
    exact settings_of_mappingItem itemMade

end DashboardExport.Rendering
