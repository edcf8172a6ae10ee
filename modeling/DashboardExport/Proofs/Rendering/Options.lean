import DashboardExport.Proofs.Decoding.Values
import DashboardExport.Proofs.Json.KeyOrder
import DashboardExport.Proofs.Json.Lines
import DashboardExport.Proofs.Rendering.Files
import DashboardExport.Proofs.Rendering.Heredoc

/-!
# Options as text

The options of a visualization that is no table are written with sorted keys and
indented.  Whatever a response can bring as options (`received_options`), the text stands
for it: it is read back to the same value up to the order of keys, and equal texts mean
equal options in that sense.  No line of the text is the marker of the here document
that carries it, so in the file of a query the document ends where it should
(`optionsText_faithful`).
-/

set_option autoImplicit false

namespace DashboardExport.Rendering

open Decoding (FieldName Outcome)
open Hcl (Item)
open Json (Agrees)

/-! ## Received options -/

/-- The options of a visualization that is decoded from a part of a response are received. -/
theorem received_options {bytes : List UInt8} {document payload : Json}
    {visualization : Visualization} (read : Json.ofDocument bytes = .ok document)
    (inside : payload.Within document)
    (decoded : Visualization.decode payload = .value visualization) :
    visualization.options.Received := by
  cases payload with
  | obj members =>
      rw [Visualization.decode, Decoding.object] at decoded
      obtain ⟨_, query, sixFields, _, rfl⟩ := Outcome.seq_eq_value_iff.1 decoded
      obtain ⟨_, options, fiveFields, optionsDecoded, rfl⟩ := Outcome.seq_eq_value_iff.1 sixFields
      obtain ⟨_, description, fourFields, _, rfl⟩ := Outcome.seq_eq_value_iff.1 fiveFields
      obtain ⟨_, name, threeFields, _, rfl⟩ := Outcome.seq_eq_value_iff.1 fourFields
      obtain ⟨_, type, twoFields, _, rfl⟩ := Outcome.seq_eq_value_iff.1 threeFields
      obtain ⟨_, queryId, oneField, _, rfl⟩ := Outcome.seq_eq_value_iff.1 twoFields
      obtain ⟨id, _, rfl⟩ := Outcome.map_eq_value_iff.1 oneField
      show options.Received
      rcases FieldName.of_optional_eq_value optionsDecoded with rfl | ⟨name, value, member, raw⟩
      · -- Absent options count as null, which is a response by itself.
        exact ⟨[0x6E, 0x75, 0x6C, 0x6C], .null, by decide +kernel, .whole⟩
      · cases raw
        exact ⟨bytes, document, read, (Json.Within.member member .whole).trans inside⟩
  | _ => cases decoded

/-! ## The text -/

theorem optionsText_of_ne_table (skipDefaults : Bool) {visualization : Visualization}
    (noTable : visualization.lowerType ≠ tableType) :
    optionsText skipDefaults visualization = .ok visualization.options.sortKeys.pretty := by
  rw [optionsText, optionsJson, if_neg noTable]
  rfl

/-- **The text of received options is read back**, up to the order of their keys. -/
theorem exists_parse?_pretty {options : Json} (received : options.Received) :
    ∃ value, Json.parse? options.sortKeys.pretty = some value ∧ Agrees options value :=
  ⟨options.sortKeys, Json.parse?_pretty (Json.readable_sortKeys options received.readable),
    Json.agrees_sortKeys options⟩

/-- **Received options have the same text exactly when they agree.** -/
theorem pretty_sortKeys_eq_iff {options other : Json} (received : options.Received)
    (otherReceived : other.Received) :
    other.sortKeys.pretty = options.sortKeys.pretty ↔ Agrees options other := by
  rw [eq_comm, Json.pretty_inj (Json.readable_sortKeys options received.readable)
    (Json.readable_sortKeys other otherReceived.readable)]
  exact Json.sortKeys_eq_iff received.readable other

/-- **No line of an indented text ends the here document.** -/
theorem closes_eq_false {value : Json} {line : String} (member : line ∈ linesOf value.pretty) :
    closes "JSON" line = false := by
  obtain ⟨chars, inside, rfl⟩ := List.mem_map.1 member
  rw [Json.pretty, String.toList_ofList] at inside
  obtain ⟨c, others, trimmed, leads⟩ := (Json.led_of_mem_lines value inside).dropWhile_isBlank
  rw [closes, String.toList_ofList, trimmed]
  refine beq_false_of_ne ?_
  intro same
  have letter : c ≠ 'J' := Json.ne_of_class leads rfl
  exact letter (List.cons.inj same).1

/-! ## The file -/

/-- The entries of a visualization end with the here document of its options. -/
theorem exists_entries_options {skipDefaults : Bool} {query : Entry Query}
    {entry : Entry Visualization} {item : Item}
    (rendered : visualizationItem skipDefaults query entry = .ok item) {text : String}
    (written : optionsText skipDefaults entry.object = .ok text) :
    ∃ before after, Item.added 0 [item] =
      before ++ "  options = <<JSON" :: text :: "JSON" :: after := by
  obtain ⟨options, here, rfl⟩ := visualizationItem_eq_ok_iff.1 rendered
  obtain rfl := Except.ok.inj (written.symm.trans here)
  exact Item.exists_added_heredoc 0
    ("resource \"" ++ visualizationResource ++ "\" \"" ++ entry.resourceName ++ "\"")
    "options" "JSON" text _ []

/-- The item of a visualization of a query is among those of the query's file. -/
theorem exists_items_renderQuery {skipDefaults : Bool} {inventory : Inventory}
    {query : Entry Query} {file : String}
    (rendered : renderQuery skipDefaults inventory query = .ok file) {entry : Entry Visualization}
    (member : entry ∈ inventory.visualizationsFor query) :
    ∃ before item after, visualizationItem skipDefaults query entry = .ok item ∧
      Item.render (before ++ item :: after) = file := by
  obtain ⟨first, visualizations, _, made, rfl⟩ := renderQuery_eq_ok_iff.1 rendered
  obtain ⟨before, item, after, here, rfl⟩ := exists_of_mapM_eq_ok made member
  refine ⟨first :: (apart before ++ [Item.gap]), item, apart after, here, ?_⟩
  rw [apart_append_cons, List.cons_append]

/-- **In the file of a query, the text of a visualization's options stands in a here document.** -/
theorem exists_lines_renderQuery {skipDefaults : Bool} {inventory : Inventory}
    {query : Entry Query} {file : String}
    (rendered : renderQuery skipDefaults inventory query = .ok file) {entry : Entry Visualization}
    (member : entry ∈ inventory.visualizationsFor query) {text : String}
    (written : optionsText skipDefaults entry.object = .ok text) :
    ∃ before after,
      linesOf file = before ++ "  options = <<JSON" :: (linesOf text ++ "JSON" :: after) := by
  obtain ⟨earlier, item, later, made, rfl⟩ := exists_items_renderQuery rendered member
  obtain ⟨before, after, entries⟩ := exists_entries_options made written
  have all : Item.added 0 (earlier ++ item :: later) =
      (Item.added 0 earlier ++ before) ++
        "  options = <<JSON" :: text :: "JSON" :: (after ++ Item.added 0 later) := by
    rw [Item.added_append, Item.added_cons, entries]
    simp only [List.append_assoc, List.cons_append]
  exact exists_lines_render all (by decide) (by decide)

/-! ## Reading back -/

/-- **Options that are no table's are written faithfully.**  The text is read back to the received
options up to the order of keys, two visualizations have the same text exactly when their options
agree so, and in the file of the query the here document that carries the text ends behind it. -/
theorem optionsText_faithful (skipDefaults : Bool) {visualization : Visualization}
    (noTable : visualization.lowerType ≠ tableType)
    (received : visualization.options.Received) :
    ∃ text, optionsText skipDefaults visualization = .ok text ∧
      (∃ value, Json.parse? text = some value ∧ Agrees visualization.options value) ∧
      (∀ (otherSkips : Bool) (other : Visualization), other.lowerType ≠ tableType →
        other.options.Received →
          (optionsText otherSkips other = .ok text ↔
            Agrees visualization.options other.options)) ∧
      (∀ line ∈ linesOf text, closes "JSON" line = false) ∧
      ∀ (inventory : Inventory) (query : Entry Query) (entry : Entry Visualization)
        (file : String), renderQuery skipDefaults inventory query = .ok file →
        entry ∈ inventory.visualizationsFor query → entry.object = visualization →
          ∃ before after,
            linesOf file = before ++ "  options = <<JSON" :: (linesOf text ++ "JSON" :: after) ∧
            readBody "JSON" (linesOf text ++ "JSON" :: after) = some (linesOf text, after) := by
  have written := optionsText_of_ne_table skipDefaults noTable
  have goesOn (line : String) (member : line ∈ linesOf visualization.options.sortKeys.pretty) :
      closes "JSON" line = false := closes_eq_false member
  refine ⟨_, written, exists_parse?_pretty received, ?_, goesOn, ?_⟩
  · intro otherSkips other otherNoTable otherReceived
    rw [optionsText_of_ne_table otherSkips otherNoTable, Except.ok.injEq]
    exact pretty_sortKeys_eq_iff received otherReceived
  · rintro inventory query entry file rendered member rfl
    obtain ⟨before, after, lines⟩ := exists_lines_renderQuery rendered member written
    exact ⟨before, after, lines, readBody_append (by decide) goesOn after⟩

/-- A chart whose options hold the marker on a line of its own. -/
def markedChart : Visualization where
  id := "1"
  queryId := "2"
  type := "CHART"
  name := "Sales"
  description := none
  options := .obj [("notes", .arr [.int 1, .float (.ofDecimal true 5 (-1))]),
    ("label", .str "\nJSON\n")]
  query := none

/-- The query of the chart. -/
def markedQuery : Entry Query where
  remoteId := "2"
  resourceName := "sales"
  object :=
    { id := "2", dataSourceId := "3", name := "Sales", description := none, text := "SELECT 1",
      schedule := none, options := ⟨[]⟩, tags := [], visualizations := [] }

theorem optionsText_faithful_markedChart :
    markedChart.lowerType ≠ tableType ∧ markedChart.options.Received ∧
      ∃ text, optionsText true markedChart = .ok text ∧
        (∃ value, Json.parse? text = some value ∧ Agrees markedChart.options value) ∧
        (∀ line ∈ linesOf text, closes "JSON" line = false) ∧
        ∃ file before after,
          renderQuery true { Inventory.empty with
            visualizations := [⟨"1", "sales_chart", markedChart⟩] } markedQuery = .ok file ∧
          linesOf file = before ++ "  options = <<JSON" :: (linesOf text ++ "JSON" :: after) := by
  have noTable : markedChart.lowerType ≠ tableType := by decide +kernel
  have received : markedChart.options.Received := by
    let body := "\x7b\"notes\": [1, -0.5], \"label\": \"\\nJSON\\n\"\x7d"
    exact ⟨body.toList.map fun c => UInt8.ofNat c.toNat, _, by decide +kernel, .whole⟩
  obtain ⟨text, written, readBack, _, lines, inFile⟩ := optionsText_faithful true noTable received
  obtain ⟨before, after, here, _⟩ := inFile { Inventory.empty with
    visualizations := [⟨"1", "sales_chart", markedChart⟩] } markedQuery
    ⟨"1", "sales_chart", markedChart⟩ _ rfl (List.mem_singleton.2 rfl) rfl
  exact ⟨noTable, received, text, written, readBack, lines, _, before, after, rfl, here⟩

end DashboardExport.Rendering
