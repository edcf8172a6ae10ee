import DashboardExport.Proofs.Decoding.Values

/-!
# Decoding what was written out

A field is decoded from what it was written out as, whichever of its names it stands under
(`FieldName.optional_dumped`), so a record is decoded field by field
(`Outcome.seq_value_of`), and lists, dictionaries and values that may be null item by item.

A payload may hold the same object written in another way: ids as integers, truth values as
words, null for an empty list.  `Restores` says that decoding settles this once: what is
written out of a decoded object is decoded to that object again.
-/

set_option autoImplicit false

namespace DashboardExport.Decoding

/-- Whatever is decoded from a payload is decoded again from what it is written out as, and comes
back as given. -/
def Restores {α : Type} (decode : Json → Outcome α) (dump : α → Json) (back : α → α) : Prop :=
  ∀ (payload : Json) (x : α), decode payload = .value x → decode (dump x) = .value (back x)

namespace Outcome

variable {α β : Type}

theorem map_value_of {field : Outcome α} {given : α} (change : α → β)
    (valued : field = .value given) : change <$> field = .value (change given) :=
  map_eq_value_iff.2 ⟨given, valued, rfl⟩

theorem seq_value_of {earlier : Outcome (α → β)} {build : α → β} {field : Outcome α} {given : α}
    (built : earlier = .value build) (valued : field = .value given) :
    earlier <*> field = .value (build given) :=
  seq_eq_value_iff.2 ⟨build, given, built, valued, rfl⟩

end Outcome

section Fields

variable {α : Type} {decode : Json → Outcome α} {value : Json} {given : α} {field : FieldName}
  {members : Members} (reads : decode value = .value given)
  (found : (field.find? members).map Prod.snd = some value)
include reads found

theorem FieldName.required_dumped : field.required decode members = .value given := by
  obtain ⟨⟨name, held⟩, under, rfl⟩ := Option.map_eq_some_iff.1 found
  rw [required, under]
  exact Outcome.under_eq_value_iff.2 reads

/-- **A field is decoded from the value that was written out under one of its names.** -/
theorem FieldName.optional_dumped {default : α} :
    field.optional default decode members = .value given := by
  obtain ⟨⟨name, held⟩, under, rfl⟩ := Option.map_eq_some_iff.1 found
  rw [optional, under]
  exact Outcome.under_eq_value_iff.2 reads

end Fields

/-! ## Values that are read back -/

theorem string_str (text : String) : string (.str text) = .value text := rfl

theorem remoteId_str (id : String) : remoteId (.str id) = .value id := rfl

theorem integer_int (n : Int) : integer (.int n) = .value n := rfl

theorem boolean_bool (b : Bool) : boolean (.bool b) = .value b := rfl

theorem raw_self (value : Json) : raw value = .value value := rfl

section Encoded

variable {α : Type} {decode : Json → Outcome α} {encode : α → Json}
  (reads : ∀ a, decode (encode a) = .value a)
include reads

/-- Null stands for a value that is not there, if no value is written as null. -/
theorem nullable_getD (present : ∀ a, encode a ≠ .null) (value : Option α) :
    nullable decode ((value.map encode).getD .null) = .value value := by
  cases value with
  | none => rfl
  | some a =>
      rw [Option.map_some, Option.getD_some, nullable]
      · exact Outcome.map_value_of some (reads a)
      · exact present a

theorem list_map (items : List α) : list decode (.arr (items.map encode)) = .value items := by
  have read := itemsFrom_map reads items 0
  rwa [List.map_id'] at read

/-- The entries of a dictionary keep their keys and their order. -/
theorem dictionary_map (items : List (String × α)) :
    dictionary decode (.obj (items.map fun item => (item.1, encode item.2))) = .value items := by
  rw [dictionary]
  induction items with
  | nil => rfl
  | cons item rest ih =>
      rw [List.map_cons, entries, reads, ih]
      rfl

end Encoded

theorem nullable_string (text : Option String) :
    nullable string ((text.map .str).getD .null) = .value text :=
  nullable_getD string_str (fun _ => nofun) text

theorem listOrNull_string (texts : List String) :
    listOrNull string (.arr (texts.map .str)) = .value texts :=
  list_map string_str texts

theorem listOrNull_raw (values : List Json) : listOrNull raw (.arr values) = .value values := by
  have read := list_map raw_self values
  rwa [List.map_id'] at read

/-- A payload that is kept for later and is not null. -/
theorem nullable_raw {payload : Option Json} (present : payload ≠ some .null) :
    nullable raw (payload.getD .null) = .value payload := by
  cases payload with
  | none => rfl
  | some value =>
      rw [Option.getD_some, nullable]
      · rfl
      · rintro rfl
        exact present rfl

/-- What is decoded to be kept for later is not null. -/
theorem ne_of_nullable_raw {value : Json} {payload : Option Json}
    (read : nullable raw value = .value payload) : payload ≠ some .null := by
  cases value with
  | null =>
      cases read
      nofun
  | _ =>
      cases read
      nofun

end DashboardExport.Decoding
