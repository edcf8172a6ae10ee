import DashboardExport.Proofs.Decoding.Values

/-!
# Null in place of nothing

An object may have a null member where another one has no member of that name, and agree
with it on all other names (`NullFor`).  No field of another name sees the difference, and
a field whose decoder takes null for the default does not see it either
(`NullFor.optional_null`).
-/

set_option autoImplicit false

namespace DashboardExport.Decoding

/-- One object has null under a name, the other one has nothing there, and they have the same
members under all other names. -/
structure NullFor (name : String) (given absent : Members) : Prop where
  null : given.lookup name = some .null
  none : absent.lookup name = none
  others : ∀ other, other ≠ name → given.lookup other = absent.lookup other

/-- A null member may stand anywhere in an object. -/
theorem nullFor_append_cons {name : String} {before after : Members}
    (first : before.lookup name = none) (later : after.lookup name = none) :
    NullFor name (before ++ (name, .null) :: after) (before ++ after) := by
  constructor
  · rw [List.lookup_append, first, Option.none_or, List.lookup_cons_self]
  · rw [List.lookup_append, first, Option.none_or, later]
  · intro other differs
    rw [List.lookup_append, List.lookup_append, List.lookup_cons, beq_false_of_ne differs]

namespace NullFor

variable {α : Type} {name : String} {given absent : Members} {field : FieldName}
  {decode : Json → Outcome α}

/-! ## Fields of other names -/

section Others

variable (null : NullFor name given absent) (service : field.service ≠ name)
  (own : field.own ≠ name)
include null service own

theorem find? : field.find? given = field.find? absent := by
  rw [FieldName.find?, FieldName.find?, null.others _ service, null.others _ own]

theorem required : field.required decode given = field.required decode absent := by
  rw [FieldName.required, FieldName.required, null.find? service own]

theorem optional {default : α} :
    field.optional default decode given = field.optional default decode absent := by
  rw [FieldName.optional, FieldName.optional, null.find? service own]

end Others

/-! ## The field itself -/

/-- The null member is what the field is decoded from. -/
theorem optional_given (null : NullFor field.service given absent) {default : α} :
    field.optional default decode given = (decode .null).under (.key field.service) :=
  FieldName.optional_of_service null.null default decode

/-- A field that is not there under its own name either takes its default. -/
theorem optional_absent (null : NullFor field.service given absent)
    (own : absent.lookup field.own = Option.none) {default : α} :
    field.optional default decode absent = .value default := by
  rw [FieldName.optional, FieldName.find?, null.none, own]
  rfl

/-- **Null is as good as nothing** where it is decoded to the default. -/
theorem optional_null (null : NullFor field.service given absent)
    (own : absent.lookup field.own = Option.none) {default : α}
    (reads : decode .null = .value default) :
    field.optional default decode given = field.optional default decode absent := by
  rw [null.optional_given, null.optional_absent own, reads]
  rfl

end NullFor

end DashboardExport.Decoding
