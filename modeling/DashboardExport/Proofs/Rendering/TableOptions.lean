import DashboardExport.Proofs.Decoding.Integers
import DashboardExport.Proofs.Json.RoundTrip
import DashboardExport.Proofs.Model.TableOptions
import DashboardExport.Rendering.Options

/-!
# Table options as text

The options of a table are decoded, written without the settings that the service fills
in or with them, and printed.  The only numbers among them are integers, which have as
many digits as the reader takes when the options come from readable JSON
(`short_of_decode`).  So the text is read back to what was written, and that is decoded
to the same options, with all orders at zero where the defaults were left out
(`tableOptions_lossless`).
-/

set_option autoImplicit false

namespace DashboardExport

open Decoding

/-! ## Integers of options -/

namespace TableColumn

/-- The order of a column is decoded by itself. -/
theorem order_of_decode {members : Members} {c : TableColumn}
    (decoded : decode (.obj members) = .value c) :
    orderField.optional default.order integer members = .value c.order := by
  rw [decode, object] at decoded
  -- Three fields are decoded after the order, and sixteen before it.
  iterate 3
    rw [Outcome.seq_eq_value_iff] at decoded
    obtain ⟨_, _, decoded, _, rfl⟩ := decoded
  rw [Outcome.seq_eq_value_iff] at decoded
  obtain ⟨_, order, decoded, orderDecoded, rfl⟩ := decoded
  iterate 15
    rw [Outcome.seq_eq_value_iff] at decoded
    obtain ⟨_, _, decoded, _, rfl⟩ := decoded
  obtain ⟨_, _, rfl⟩ := Outcome.map_eq_value_iff.1 decoded
  exact orderDecoded

/-- The settings of a column are readable when its order is. -/
theorem readableMembers_members {c : TableColumn}
    (order : (digitsOf c.order).length ≤ Json.digitLimit) :
    Json.ReadableMembers (c.members .service) := by
  have values : Json.ReadableItems (c.booleanValues.map .str) := by
    refine Json.readableItems_of_forall fun item member => ?_
    obtain ⟨value, _, rfl⟩ := List.mem_map.1 member
    exact trivial
  simp only [members, Json.ReadableMembers, Json.Readable, values, true_and, and_true]
  exact order

theorem readable_toJson {c : TableColumn} (order : (digitsOf c.order).length ≤ Json.digitLimit)
    (skipDefaults : Bool) : (c.toJson skipDefaults).Readable := by
  have selected {d : TableColumn} (short : (digitsOf d.order).length ≤ Json.digitLimit)
      {kept : Members} (keeps : Keeps d kept) : (Json.obj kept).Readable := by
    refine ⟨keeps.distinct, Json.readableMembers_of_forall fun setting member => ?_⟩
    exact (readableMembers_members short).of_mem (keeps.own setting member)
  cases skipDefaults with
  | false =>
      obtain ⟨kept, written, keeps⟩ := exists_keeps_toJson_false c
      rw [written]
      exact selected order keeps
  | true =>
      obtain ⟨kept, written, keeps, _⟩ := exists_keeps_toJson_true c
      have zero : (digitsOf 0).length ≤ Json.digitLimit := by decide
      rw [written]
      exact selected zero keeps

end TableColumn

/-- An optional integer of readable members has few digits, if its default has. -/
theorem length_digits_of_optional {field : FieldName} {default n : Int} {members : Members}
    (readable : Json.ReadableMembers members)
    (fallback : (digitsOf default).length ≤ Json.digitLimit)
    (decoded : field.optional default integer members = .value n) :
    (digitsOf n).length ≤ Json.digitLimit := by
  rcases FieldName.of_optional_eq_value decoded with rfl | ⟨_, _, member, decoded⟩
  · exact fallback
  · exact length_digits_of_integer (Json.ReadableMembers.of_mem readable member) decoded

namespace TableOptions

/-- Options without an integer beyond the limit of digits. -/
structure Short (o : TableOptions) : Prop where
  itemsPerPage : (digitsOf o.itemsPerPage).length ≤ Json.digitLimit
  order : ∀ c ∈ o.columns, (digitsOf c.order).length ≤ Json.digitLimit

/-- **What is decoded from readable JSON is short.** -/
theorem short_of_decode {value : Json} (readable : value.Readable) {o : TableOptions}
    (decoded : decode value = .value o) : Short o := by
  cases value with
  | obj members =>
      rw [decode, object] at decoded
      obtain ⟨_, columns, oneField, columnsDecoded, rfl⟩ := Outcome.seq_eq_value_iff.1 decoded
      obtain ⟨size, sizeDecoded, rfl⟩ := Outcome.map_eq_value_iff.1 oneField
      refine ⟨length_digits_of_optional readable.2 (by decide) sizeDecoded, fun c member => ?_⟩
      rcases FieldName.of_optional_eq_value columnsDecoded with rfl | ⟨name, value, inside, listed⟩
      · cases member
      · obtain ⟨items, rfl, item, here, columnDecoded⟩ := exists_of_mem_listOrNull listed member
        have items : Json.ReadableItems items := Json.ReadableMembers.of_mem readable.2 inside
        have itemReadable := items.of_mem here
        cases item with
        | obj settings =>
            exact length_digits_of_optional itemReadable.2 (by decide)
              (TableColumn.order_of_decode columnDecoded)
        | _ => cases columnDecoded
  | _ => cases decoded

/-- **Short options are written as readable JSON.** -/
theorem readable_toJson {o : TableOptions} (short : Short o) (skipDefaults : Bool) :
    (o.toJson skipDefaults).Readable := by
  have columns : Json.ReadableItems (o.columns.map (TableColumn.toJson skipDefaults)) := by
    refine Json.readableItems_of_forall fun column member => ?_
    obtain ⟨c, inside, rfl⟩ := List.mem_map.1 member
    exact TableColumn.readable_toJson (short.order c inside) skipDefaults
  have names : [itemsPerPageField.service, columnsField.service].Nodup := by decide
  rw [toJson_eq, members]
  split_ifs
  · exact ⟨List.nodup_nil, trivial⟩
  · exact ⟨List.nodup_singleton _, columns, trivial⟩
  · exact ⟨List.nodup_singleton _, short.itemsPerPage, trivial⟩
  · exact ⟨names, short.itemsPerPage, columns, trivial⟩

end TableOptions

namespace Rendering

/-! ## The text of table options -/

/-- The text of a table's options is that of the decoded options. -/
theorem optionsText_of_decode {visualization : Visualization}
    (table : visualization.lowerType = tableType) {options : TableOptions}
    (decoded : TableOptions.decode visualization.options = .value options) (skipDefaults : Bool) :
    optionsText skipDefaults visualization = .ok (options.toJson skipDefaults).pretty := by
  rw [optionsText, optionsJson, if_pos table, decoded]
  rfl

/-- **Leaving out defaults loses nothing but the orders of columns.**  Options that are written with
their defaults are decoded to themselves, and those that are written without defaults to the same
options with all orders at zero; the columns are written without any setting that the service fills
in, and in the order of the names then.  The same is true of what is read back from the text of a
table's options, when these are such as a JSON text can bring (`Json.readable_of_parse?`). -/
theorem tableOptions_lossless {value : Json} {options : TableOptions}
    (decoded : TableOptions.decode value = .value options) :
    TableOptions.decode (options.toJson false) = .value options ∧
      TableOptions.decode (options.toJson true) = .value options.unordered ∧
      TableOptions.Trimmed (options.toJson true) ∧
      (value.Readable → ∀ visualization : Visualization,
        visualization.lowerType = tableType → visualization.options = value →
          (∃ text written, optionsText false visualization = .ok text ∧
            Json.parse? text = some written ∧ TableOptions.decode written = .value options) ∧
          ∃ text written, optionsText true visualization = .ok text ∧
            Json.parse? text = some written ∧
            TableOptions.decode written = .value options.unordered ∧
            TableOptions.Trimmed written) := by
  have full := TableOptions.decode_toJson false options
  have trimmed := TableOptions.decode_toJson true options
  refine ⟨full, trimmed, TableOptions.trimmed_toJson options, ?_⟩
  rintro readable visualization table rfl
  have short := TableOptions.short_of_decode readable decoded
  have readBack (skipDefaults : Bool) : Json.parse? (options.toJson skipDefaults).pretty =
      some (options.toJson skipDefaults) :=
    Json.parse?_pretty (TableOptions.readable_toJson short skipDefaults)
  constructor
  · exact ⟨_, _, optionsText_of_decode table decoded false, readBack false, full⟩
  · exact ⟨_, _, optionsText_of_decode table decoded true, readBack true, trimmed,
      TableOptions.trimmed_toJson options⟩

/-- Options of a table as a service sends them: a number written as a text, settings under both
kinds of names, and one that the service fills in. -/
def priceOptions : Json :=
  .obj [("itemsPerPage", .str " 25 "),
    ("columns", .arr [.obj [("visible", .bool false), ("name", .str "price"),
      ("display_as", .str "number"), ("alignContent", .str "left"), ("order", .int 100000)]])]

theorem tableOptions_lossless_price :
    ∃ options, TableOptions.decode priceOptions = .value options ∧ priceOptions.Readable ∧
      TableOptions.decode (options.toJson false) = .value options ∧
      options.unordered ≠ options ∧
      ∃ text written,
        optionsText true ⟨"1", "2", "TABLE", "", none, priceOptions, none⟩ = .ok text ∧
        Json.parse? text = some written ∧
        TableOptions.decode written = .value options.unordered ∧
        TableOptions.Trimmed written := by
  have decoded : ∃ options, TableOptions.decode priceOptions = .value options ∧
      options.unordered ≠ options := ⟨_, rfl, by decide +kernel⟩
  have order : (digitsOf 100000).length ≤ Json.digitLimit := by decide
  have column : Json.Readable (.obj [("visible", .bool false), ("name", .str "price"),
      ("display_as", .str "number"), ("alignContent", .str "left"), ("order", .int 100000)]) :=
    ⟨by decide, trivial, trivial, trivial, trivial, order, trivial⟩
  have readable : priceOptions.Readable :=
    ⟨by decide, trivial, ⟨column, trivial⟩, trivial⟩
  obtain ⟨options, decoded, differs⟩ := decoded
  obtain ⟨full, _, _, printed⟩ := tableOptions_lossless decoded
  obtain ⟨_, trimmed⟩ := printed readable ⟨"1", "2", "TABLE", "", none, priceOptions, none⟩
    (by decide +kernel) rfl
  exact ⟨options, decoded, readable, full, differs, trimmed⟩

end Rendering

end DashboardExport
