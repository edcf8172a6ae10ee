import DashboardExport.Model.TableOptions
import DashboardExport.Proofs.Decoding.Dumps
import DashboardExport.Proofs.Json.KeyOrder

/-!
# Table options are read back

What is written of a column is a selection of its settings (`Keeps`): each of them stands
under the service's name for it, and one that is left out has the value that a payload
without it is decoded to.  So the column is read back from any such selection
(`decode_of_keeps`).  That the settings the service fills in are those of a column
decoded from nothing is the one fact about the two tables that this rests on
(`filledIn_eq`).

An order that is left out is read as zero, and it is left out wherever the defaults are:
then the options are read back with all orders at zero (`decode_toJson`).
-/

set_option autoImplicit false

namespace DashboardExport

open Decoding

namespace TableColumn

/-! ## The two tables -/

/-- **The settings that the service fills in are those of a column without settings.** -/
theorem filledIn_eq : filledIn = default.members .service := rfl

/-- The service's names of the settings. -/
def settingNames : List String := filledIn.map Prod.fst

theorem map_fst_members (c : TableColumn) :
    (c.members .service).map Prod.fst = settingNames := rfl

theorem settingNames_nodup : settingNames.Nodup := by decide +kernel

/-- A column has one setting under each name. -/
theorem eq_of_mem_members {c : TableColumn} {name : String} {value other : Json}
    (member : (name, value) ∈ c.members .service)
    (otherMember : (name, other) ∈ c.members .service) : value = other := by
  have distinct : ((c.members .service).map Prod.fst).Nodup := settingNames_nodup
  have same := lookup_of_mem distinct member
  rw [lookup_of_mem distinct otherMember] at same
  exact (Option.some.inj same).symm

/-- A setting that the service fills in is one of a column without settings. -/
theorem mem_default_of_isFilledIn {setting : String × Json} (filled : isFilledIn setting = true) :
    setting ∈ default.members .service := by
  rw [← filledIn_eq]
  exact mem_of_lookup (beq_iff_eq.1 filled)

/-! ## Selections of settings -/

/-- A selection of a column's settings that leaves out nothing but what a payload without it is
decoded to. -/
structure Keeps (c : TableColumn) (kept : Members) : Prop where
  distinct : (kept.map Prod.fst).Nodup
  own : ∀ setting ∈ kept, setting ∈ c.members .service
  dropped : ∀ setting ∈ c.members .service, setting ∉ kept → setting ∈ default.members .service

/-- Settings are selected by a test, and put in any order. -/
theorem keeps_of_perm_filter {c : TableColumn} {keep : String × Json → Bool} {kept : Members}
    (perm : kept.Perm ((c.members .service).filter keep))
    (dropped : ∀ setting ∈ c.members .service, keep setting = false →
      setting ∈ default.members .service) : Keeps c kept := by
  have distinct : ((c.members .service).map Prod.fst).Nodup := settingNames_nodup
  constructor
  · rw [(perm.map Prod.fst).nodup_iff]
    exact distinct.sublist (List.filter_sublist.map Prod.fst)
  · intro setting member
    exact List.mem_of_mem_filter (perm.subset member)
  · intro setting member absent
    refine dropped setting member (Bool.eq_false_iff.2 fun keeps => absent ?_)
    exact perm.symm.subset (List.mem_filter.2 ⟨member, keeps⟩)

/-- **A field is read back from a selection**, whether its setting was kept or left out. -/
theorem optional_of_keeps {α : Type} {decode : Json → Outcome α} (encode : α → Json)
    (reads : ∀ a, decode (encode a) = .value a) {field : FieldName} {get : TableColumn → α}
    (listed : ∀ c : TableColumn, (field.service, encode (get c)) ∈ c.members .service)
    (names : field.own ∈ settingNames → field.own = field.service)
    {c : TableColumn} {kept : Members} (keeps : Keeps c kept) :
    field.optional (get default) decode kept = .value (get c) := by
  refine FieldName.optional_eq_value (fun value found => ?_) (fun none => ⟨?_, ?_⟩)
  · have inside := keeps.own _ (mem_of_lookup found)
    rw [eq_of_mem_members inside (listed c)]
    exact reads (get c)
  · rw [lookup_eq_none_iff] at none ⊢
    intro known
    have setting : field.own ∈ settingNames := by
      obtain ⟨entry, member, same⟩ := List.mem_map.1 known
      rw [← same, ← map_fst_members c]
      exact List.mem_map_of_mem (keeps.own entry member)
    rw [names setting] at known
    exact none known
  · have absent : (field.service, encode (get c)) ∉ kept := by
      intro member
      exact lookup_eq_none_iff.1 none (List.mem_map.2 ⟨_, member, rfl⟩)
    have same := eq_of_mem_members (keeps.dropped _ (listed c) absent) (listed default)
    have read := reads (get c)
    rw [same, reads] at read
    exact (Outcome.value.inj read).symm

/-! ## Columns -/

/-- **A column is read back from every selection of its settings** that leaves out nothing but
what a column without settings has. -/
theorem decode_of_keeps {c : TableColumn} {kept : Members} (keeps : Keeps c kept) :
    decode (.obj kept) = .value c := by
  -- Each field is given with its place among the settings.
  have text (field : FieldName) (get : TableColumn → String) (place : Nat)
      (listed : ∀ c : TableColumn, (c.members .service)[place]? =
        some (field.service, .str (get c)))
      (names : field.own ∈ settingNames → field.own = field.service) :
      field.optional (get default) string kept = .value (get c) :=
    optional_of_keeps Json.str (fun _ => rfl) (fun c => List.mem_of_getElem? (listed c)) names keeps
  have truth (field : FieldName) (get : TableColumn → Bool) (place : Nat)
      (listed : ∀ c : TableColumn, (c.members .service)[place]? =
        some (field.service, .bool (get c)))
      (names : field.own ∈ settingNames → field.own = field.service) :
      field.optional (get default) boolean kept = .value (get c) :=
    optional_of_keeps Json.bool (fun _ => rfl) (fun c => List.mem_of_getElem? (listed c)) names
      keeps
  have values (listed : ∀ c : TableColumn, (c.members .service)[6]? =
      some (booleanValuesField.service, .arr (c.booleanValues.map .str))) :
      booleanValuesField.optional default.booleanValues (list string) kept =
        .value c.booleanValues :=
    optional_of_keeps (fun values : List String => Json.arr (values.map .str)) (list_map string_str)
      (fun c => List.mem_of_getElem? (listed c)) (by decide) keeps
  have order (listed : ∀ c : TableColumn, (c.members .service)[16]? =
      some (orderField.service, .int c.order)) :
      orderField.optional default.order integer kept = .value c.order :=
    optional_of_keeps Json.int (fun _ => rfl) (fun c => List.mem_of_getElem? (listed c)) (by decide)
      keeps
  rw [decode, object, text nameField name 0 (fun _ => rfl) (by decide),
    text typeField type 1 (fun _ => rfl) (by decide),
    text titleField title 2 (fun _ => rfl) (by decide),
    text displayAsField displayAs 3 (fun _ => rfl) (by decide),
    truth allowSearchField allowSearch 4 (fun _ => rfl) (by decide),
    text numberFormatField numberFormat 5 (fun _ => rfl) (by decide),
    values (fun _ => rfl),
    text imageUrlTemplateField imageUrlTemplate 7 (fun _ => rfl) (by decide),
    text imageTitleTemplateField imageTitleTemplate 8 (fun _ => rfl) (by decide),
    text imageWidthField imageWidth 9 (fun _ => rfl) (by decide),
    text imageHeightField imageHeight 10 (fun _ => rfl) (by decide),
    text linkUrlTemplateField linkUrlTemplate 11 (fun _ => rfl) (by decide),
    text linkTextTemplateField linkTextTemplate 12 (fun _ => rfl) (by decide),
    text linkTitleTemplateField linkTitleTemplate 13 (fun _ => rfl) (by decide),
    truth linkOpenInNewTabField linkOpenInNewTab 14 (fun _ => rfl) (by decide),
    truth visibleField visible 15 (fun _ => rfl) (by decide), order (fun _ => rfl),
    text alignContentField alignContent 17 (fun _ => rfl) (by decide),
    truth allowHtmlField allowHtml 18 (fun _ => rfl) (by decide),
    truth highlightLinksField highlightLinks 19 (fun _ => rfl) (by decide)]
  rfl

/-- The column with an order of zero. -/
def unordered (c : TableColumn) : TableColumn := { c with order := 0 }

/-- What is read back of a column that is written without defaults or with them. -/
def readBack (skipDefaults : Bool) (c : TableColumn) : TableColumn :=
  if skipDefaults then c.unordered else c

theorem toJson_unordered (c : TableColumn) : c.unordered.toJson true = c.toJson true := rfl

/-- The setting under the name of an order of zero can be left out. -/
theorem mem_default_of_order {c : TableColumn} (zero : c.order = 0) {setting : String × Json}
    (member : setting ∈ c.members .service) (named : setting.1 = orderField.service) :
    setting ∈ default.members .service := by
  obtain ⟨name, value⟩ := setting
  obtain rfl : name = orderField.service := named
  have order : (orderField.service, Json.int c.order) ∈ c.members .service :=
    List.mem_of_getElem? (i := 16) rfl
  rw [eq_of_mem_members member order, zero]
  exact List.mem_of_getElem? (i := 16) rfl

/-- **With its defaults a column is written as a selection of its settings.** -/
theorem exists_keeps_toJson_false (c : TableColumn) :
    ∃ kept, c.toJson false = .obj kept ∧ Keeps c kept := by
  cases zero : c.order == 0 with
  | true =>
      refine ⟨(c.members .service).filter fun setting => setting.1 != orderField.service, ?_, ?_⟩
      · simp only [toJson, zero, if_true, Bool.false_eq_true, if_false]
      · refine keeps_of_perm_filter (.refl _) fun setting member left => ?_
        rw [bne_eq_false_iff_eq] at left
        exact mem_default_of_order (beq_iff_eq.1 zero) member left
  | false =>
      refine ⟨c.members .service, ?_, settingNames_nodup, fun _ member => member, ?_⟩
      · simp only [toJson, zero, Bool.false_eq_true, if_false]
      · exact fun _ member absent => absurd member absent

/-- **Without defaults a column is written as a selection of its settings**, in the order of their
names, and without any setting that the service fills in. -/
theorem exists_keeps_toJson_true (c : TableColumn) :
    ∃ kept, c.toJson true = .obj kept ∧ Keeps c.unordered kept ∧ Json.Ordered kept ∧
      ∀ setting ∈ kept, filledIn.lookup setting.1 ≠ some setting.2 := by
  have distinct : ((c.unordered.members .service).map Prod.fst).Nodup := settingNames_nodup
  have perm := Json.foldr_insertMember_perm ((c.unordered.members .service).filter fun setting =>
    setting.1 != orderField.service && !isFilledIn setting)
  rw [← toJson_unordered]
  refine ⟨_, rfl, keeps_of_perm_filter perm fun setting member left => ?_, ?_, ?_⟩
  · rw [Bool.and_eq_false_iff, bne_eq_false_iff_eq, Bool.not_eq_false'] at left
    rcases left with order | filled
    · exact mem_default_of_order rfl member order
    · exact mem_default_of_isFilledIn filled
  · exact Json.ordered_foldr_insertMember (distinct.sublist (List.filter_sublist.map Prod.fst))
  · intro setting member found
    have kept := List.of_mem_filter (perm.subset member)
    rw [isFilledIn, found, beq_self_eq_true, Bool.not_true, Bool.and_false] at kept
    cases kept

/-- **A column is read back**, with an order of zero if it was written without defaults. -/
theorem decode_toJson (skipDefaults : Bool) (c : TableColumn) :
    decode (c.toJson skipDefaults) = .value (c.readBack skipDefaults) := by
  cases skipDefaults with
  | false =>
      obtain ⟨kept, written, keeps⟩ := exists_keeps_toJson_false c
      rw [written]
      exact decode_of_keeps keeps
  | true =>
      obtain ⟨kept, written, keeps, _⟩ := exists_keeps_toJson_true c
      rw [written]
      exact decode_of_keeps keeps

end TableColumn

namespace TableOptions

/-! ## Options -/

/-- The options with the orders of all columns at zero. -/
def unordered (o : TableOptions) : TableOptions :=
  { o with columns := o.columns.map TableColumn.unordered }

/-- What is read back of options that are written without defaults or with them. -/
def readBack (skipDefaults : Bool) (o : TableOptions) : TableOptions :=
  if skipDefaults then o.unordered else o

theorem columns_readBack (skipDefaults : Bool) (o : TableOptions) :
    (o.readBack skipDefaults).columns = o.columns.map (TableColumn.readBack skipDefaults) := by
  cases skipDefaults with
  | false => exact (List.map_id' o.columns).symm
  | true => rfl

theorem itemsPerPage_readBack (skipDefaults : Bool) (o : TableOptions) :
    (o.readBack skipDefaults).itemsPerPage = o.itemsPerPage := by
  cases skipDefaults with
  | false => rfl
  | true => rfl

/-- The members that are written of options. -/
def members (skipDefaults : Bool) (o : TableOptions) : Members :=
  (if o.itemsPerPage == 0 then [] else [(itemsPerPageField.service, .int o.itemsPerPage)]) ++
    if o.columns.isEmpty then []
    else [(columnsField.service, .arr (o.columns.map (TableColumn.toJson skipDefaults)))]

theorem toJson_eq (skipDefaults : Bool) (o : TableOptions) :
    o.toJson skipDefaults = .obj (o.members skipDefaults) := rfl

theorem lookup_itemsPerPage (skipDefaults : Bool) (o : TableOptions) :
    (o.members skipDefaults).lookup itemsPerPageField.service =
      if o.itemsPerPage = 0 then none else some (.int o.itemsPerPage) := by
  rw [members]
  by_cases zero : o.itemsPerPage = 0
  · rw [if_pos (beq_iff_eq.2 zero), if_pos zero]
    split_ifs <;> rfl
  · rw [if_neg (mt beq_iff_eq.1 zero), if_neg zero]
    rfl

theorem lookup_itemsPerPage_own (skipDefaults : Bool) (o : TableOptions) :
    (o.members skipDefaults).lookup itemsPerPageField.own = none := by
  rw [members]
  split_ifs <;> rfl

theorem lookup_columns (skipDefaults : Bool) (o : TableOptions) :
    (o.members skipDefaults).lookup columnsField.service =
      if o.columns = [] then none
      else some (.arr (o.columns.map (TableColumn.toJson skipDefaults))) := by
  rw [members]
  cases o.columns with
  | nil =>
      simp only [List.isEmpty_nil, if_true]
      split_ifs <;> rfl
  | cons first rest =>
      simp only [List.isEmpty_cons, Bool.false_eq_true, reduceCtorEq, if_false]
      split_ifs <;> rfl

/-- **Options are read back**, with orders of zero if they were written without defaults. -/
theorem decode_toJson (skipDefaults : Bool) (o : TableOptions) :
    decode (o.toJson skipDefaults) = .value (o.readBack skipDefaults) := by
  have size : itemsPerPageField.optional 0 integer (o.members skipDefaults) =
      .value (o.readBack skipDefaults).itemsPerPage := by
    rw [itemsPerPage_readBack]
    refine FieldName.optional_eq_value (fun value found => ?_) (fun none => ⟨?_, ?_⟩)
    · rw [lookup_itemsPerPage] at found
      split_ifs at found
      cases found
      rfl
    · exact lookup_itemsPerPage_own skipDefaults o
    · rw [lookup_itemsPerPage] at none
      split_ifs at none with zero
      exact zero
  have columns : columnsField.optional [] (listOrNull TableColumn.decode)
      (o.members skipDefaults) = .value (o.readBack skipDefaults).columns := by
    rw [columns_readBack]
    refine FieldName.optional_eq_value (fun value found => ?_) (fun none => ⟨none, ?_⟩)
    · rw [lookup_columns] at found
      split_ifs at found
      cases found
      exact itemsFrom_map (TableColumn.decode_toJson skipDefaults) o.columns 0
    · rw [lookup_columns] at none
      split_ifs at none with empty
      rw [empty, List.map_nil]
  rw [toJson_eq, decode, object, size, columns]
  rfl

/-- The columns that stand in written options. -/
def writtenColumns : Json → List Json
  | .obj members =>
    match members.lookup columnsField.service with
    | some (.arr columns) => columns
    | _ => []
  | _ => []

/-- Written options whose columns have their settings in the order of the names, and none that the
service fills in. -/
def Trimmed (written : Json) : Prop :=
  ∀ column ∈ writtenColumns written, ∃ settings, column = .obj settings ∧
    Json.Ordered settings ∧
    ∀ setting ∈ settings, TableColumn.filledIn.lookup setting.1 ≠ some setting.2

theorem writtenColumns_toJson (skipDefaults : Bool) (o : TableOptions) :
    writtenColumns (o.toJson skipDefaults) = o.columns.map (TableColumn.toJson skipDefaults) := by
  rw [toJson_eq, writtenColumns, lookup_columns]
  split_ifs with empty
  · rw [empty, List.map_nil]
  · rfl

/-- **Without defaults options are trimmed.** -/
theorem trimmed_toJson (o : TableOptions) : Trimmed (o.toJson true) := by
  intro column member
  rw [writtenColumns_toJson] at member
  obtain ⟨c, _, rfl⟩ := List.mem_map.1 member
  obtain ⟨settings, written, _, ordered, others⟩ := TableColumn.exists_keeps_toJson_true c
  exact ⟨settings, written, ordered, others⟩

end TableOptions

end DashboardExport
