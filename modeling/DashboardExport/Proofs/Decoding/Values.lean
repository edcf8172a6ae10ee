import DashboardExport.Decoding.Field
import DashboardExport.Proofs.Fallible

/-!
# When decoding gives a value

An object is decoded to a value when all of its fields are, and a field is decoded from
the member that has one of its names; one that is absent takes its default.
-/

set_option autoImplicit false

namespace DashboardExport.Decoding

namespace Outcome

variable {α β : Type}

theorem map_eq_value_iff {change : α → β} {outcome : Outcome α} {result : β} :
    change <$> outcome = .value result ↔
      ∃ given, outcome = .value given ∧ change given = result := by
  cases outcome with
  | value given => simp [Functor.map, map]
  | invalid issues => simp [Functor.map, map]
  | rejected rejection => simp [Functor.map, map]

/-- A field adds to a value when it is decoded to one. -/
theorem seq_eq_value_iff {earlier : Outcome (α → β)} {field : Outcome α} {result : β} :
    earlier <*> field = .value result ↔
      ∃ build given, earlier = .value build ∧ field = .value given ∧ build given = result := by
  cases earlier with
  | value build =>
      cases field with
      | value given => simp [Seq.seq, and, map]
      | invalid issues => simp [Seq.seq, and, map]
      | rejected rejection => simp [Seq.seq, and, map]
  | invalid issues =>
      cases field with
      | value given => simp [Seq.seq, and, map]
      | invalid others => simp [Seq.seq, and, map]
      | rejected rejection => simp [Seq.seq, and, map]
  | rejected rejection => simp [Seq.seq, and, map]

theorem and_eq_value_iff {first : Outcome α} {second : Outcome β} {pair : α × β} :
    first.and second = .value pair ↔ first = .value pair.1 ∧ second = .value pair.2 := by
  cases first with
  | value given =>
      cases second with
      | value other => simp [and, Prod.ext_iff]
      | invalid issues => simp [and]
      | rejected rejection => simp [and]
  | invalid issues =>
      cases second with
      | value other => simp [and]
      | invalid others => simp [and]
      | rejected rejection => simp [and]
  | rejected rejection => simp [and]

theorem under_eq_value_iff {step : Step} {outcome : Outcome α} {result : α} :
    outcome.under step = .value result ↔ outcome = .value result := by
  cases outcome with
  | value given => exact Iff.rfl
  | invalid issues => simp [under]
  | rejected rejection => exact Iff.rfl

end Outcome

/-! ## Fields -/

theorem mem_of_lookup {members : Members} {name : String} {value : Json}
    (found : members.lookup name = some value) : (name, value) ∈ members := by
  obtain ⟨before, after, rfl, _⟩ := List.lookup_eq_some_iff.1 found
  exact List.mem_append_right before List.mem_cons_self

/-- Where the names differ, every member is found. -/
theorem lookup_of_mem {members : Members} (distinct : (members.map Prod.fst).Nodup) {name : String}
    {value : Json} (member : (name, value) ∈ members) : members.lookup name = some value := by
  induction members with
  | nil => cases member
  | cons first rest ih =>
      obtain ⟨absent, distinct⟩ := List.nodup_cons.1 distinct
      rcases List.mem_cons.1 member with rfl | later
      · exact List.lookup_cons_self
      · have other : name ≠ first.1 := by
          rintro rfl
          exact absent (List.mem_map.2 ⟨_, later, rfl⟩)
        rw [List.lookup_cons, beq_false_of_ne other]
        exact ih distinct later

theorem lookup_eq_none_iff {members : Members} {name : String} :
    members.lookup name = none ↔ name ∉ members.map Prod.fst := by
  rw [List.lookup_eq_none_iff]
  constructor
  · intro others known
    obtain ⟨entry, member, rfl⟩ := List.mem_map.1 known
    exact bne_iff_ne.1 (others entry member) rfl
  · intro absent entry member
    refine bne_iff_ne.2 ?_
    rintro rfl
    exact absent (List.mem_map.2 ⟨entry, member, rfl⟩)

theorem FieldName.mem_of_find? {field : FieldName} {members : Members} {name : String}
    {value : Json} (found : field.find? members = some (name, value)) :
    (name, value) ∈ members := by
  rw [find?] at found
  split at found
  · next service =>
      cases found
      exact mem_of_lookup service
  · obtain ⟨_, own, same⟩ := Option.map_eq_some_iff.1 found
    cases same
    exact mem_of_lookup own

/-- A field with one name is found under it. -/
theorem FieldName.find?_same (name : String) (members : Members) :
    (FieldName.same name).find? members = (members.lookup name).map fun value => (name, value) := by
  rw [find?, same]
  dsimp only
  cases members.lookup name with
  | none => rfl
  | some value => rfl

/-- An optional field is decoded from the member under the service's name, if there is one. -/
theorem FieldName.optional_of_service {α : Type} {field : FieldName} {members : Members}
    {value : Json} (found : members.lookup field.service = some value) (default : α)
    (decode : Json → Outcome α) :
    field.optional default decode members = (decode value).under (.key field.service) := by
  rw [optional, find?_of_service found]

/-- An optional field is its default or decoded from a member. -/
theorem FieldName.of_optional_eq_value {α : Type} {field : FieldName} {default result : α}
    {decode : Json → Outcome α} {members : Members}
    (decoded : field.optional default decode members = .value result) :
    result = default ∨ ∃ name value, (name, value) ∈ members ∧ decode value = .value result := by
  rw [optional] at decoded
  split at decoded
  · next name value found =>
      exact .inr ⟨name, value, mem_of_find? found, Outcome.under_eq_value_iff.1 decoded⟩
  · cases decoded
    exact .inl rfl

/-- An optional field has a value when the member under the service's name gives it, or when there
is no member and the value is the default. -/
theorem FieldName.optional_eq_value {α : Type} {field : FieldName} {default given : α}
    {decode : Json → Outcome α} {members : Members}
    (present : ∀ value, members.lookup field.service = some value → decode value = .value given)
    (absent : members.lookup field.service = none →
      members.lookup field.own = none ∧ given = default) :
    field.optional default decode members = .value given := by
  rw [optional]
  cases found : members.lookup field.service with
  | some value =>
      rw [find?_of_service found]
      exact Outcome.under_eq_value_iff.2 (present value found)
  | none =>
      obtain ⟨none, rfl⟩ := absent found
      rw [find?, found, none]
      rfl

/-! ## Lists -/

/-- Items that are decoded one by one are decoded as a list. -/
theorem itemsFrom_map {α β : Type} {decode : Json → Outcome β} {encode : α → Json} {image : α → β}
    (reads : ∀ a, decode (encode a) = .value (image a)) (items : List α) (position : Nat) :
    itemsFrom decode position (items.map encode) = .value (items.map image) := by
  induction items generalizing position with
  | nil => rfl
  | cons item rest ih =>
      rw [List.map_cons, itemsFrom, reads item, ih]
      rfl

/-- **A list is decoded item by item.** -/
theorem itemsFrom_eq_value_iff {α β : Type} {decode : β → Outcome α} {items : List β}
    {position : Nat} {results : List α} :
    itemsFrom decode position items = .value results ↔
      List.Forall₂ (fun item result => decode item = .value result) items results := by
  induction items generalizing position results with
  | nil =>
      rw [List.forall₂_nil_left_iff, itemsFrom, Outcome.value.injEq, eq_comm]
  | cons item rest ih =>
      have step : itemsFrom decode position (item :: rest) = .value results ↔
          ∃ pair : α × List α, decode item = .value pair.1 ∧
            itemsFrom decode (position + 1) rest = .value pair.2 ∧ pair.1 :: pair.2 = results := by
        rw [itemsFrom]
        refine Outcome.map_eq_value_iff.trans (exists_congr fun pair => ?_)
        rw [Outcome.and_eq_value_iff, Outcome.under_eq_value_iff, and_assoc]
      rw [step, List.forall₂_cons_left_iff]
      constructor
      · rintro ⟨⟨result, others⟩, here, later, rfl⟩
        exact ⟨result, others, here, ih.1 later, rfl⟩
      · rintro ⟨result, others, here, later, rfl⟩
        exact ⟨(result, others), here, ih.2 later, rfl⟩

/-- Every member of a decoded list is decoded from an item. -/
theorem exists_of_mem_itemsFrom {α : Type} {decode : Json → Outcome α} {items : List Json}
    {position : Nat} {results : List α} (decoded : itemsFrom decode position items = .value results)
    {result : α} (member : result ∈ results) : ∃ item ∈ items, decode item = .value result :=
  exists_mem_of_forall₂ (itemsFrom_eq_value_iff.1 decoded) member

/-- What is decoded to a list with a member is a list, and the member is decoded from an item. -/
theorem exists_of_mem_listOrNull {α : Type} {decode : Json → Outcome α} {value : Json}
    {results : List α} (decoded : listOrNull decode value = .value results) {result : α}
    (member : result ∈ results) :
    ∃ items, value = .arr items ∧ ∃ item ∈ items, decode item = .value result := by
  cases value with
  | null =>
      cases decoded
      cases member
  | arr items => exact ⟨items, rfl, exists_of_mem_itemsFrom decoded member⟩
  | _ => cases decoded

end DashboardExport.Decoding
