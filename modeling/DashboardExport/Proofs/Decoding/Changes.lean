import DashboardExport.Proofs.Renaming.Services
import Mathlib.Control.Basic

/-!
# Decoding payloads with other values

A payload whose fields hold other values is decoded with other values in the object, when
each field is decoded to the other value of that field (`FieldName.optional_map`), and to the
same object when each field is decoded to the same value (`FieldName.optional_alike`).  Outcomes
are a lawful applicative functor, so the changes of the fields gather in one change of the
object.
-/

set_option autoImplicit false

namespace DashboardExport

namespace Decoding

/-! ## Outcomes as a functor -/

namespace Outcome

instance : LawfulFunctor Outcome where
  map_const := rfl
  id_map := by rintro _ (_ | _ | _) <;> rfl
  comp_map := by rintro _ _ _ _ _ (_ | _ | _) <;> rfl

instance : LawfulApplicative Outcome where
  seqLeft_eq := fun _ _ => rfl
  seqRight_eq := fun _ _ => rfl
  pure_seq := by rintro _ _ _ (_ | _ | _) <;> rfl
  map_pure := fun _ _ => rfl
  seq_pure := by rintro _ _ (_ | _ | _) _ <;> rfl
  seq_assoc := by
    rintro _ _ _ (_ | _ | _) (_ | _ | _) (_ | _ | _)
    all_goals simp [Seq.seq, Functor.map, and, map]

variable {α β : Type}

theorem under_map (step : Step) (change : α → β) (outcome : Outcome α) :
    (change <$> outcome).under step = change <$> outcome.under step := by
  cases outcome <;> rfl

theorem ofOutcome_map (subject : Subject) (change : α → β) (outcome : Outcome α) :
    Refusal.ofOutcome subject (change <$> outcome) =
      (Refusal.ofOutcome subject outcome).map change := by
  cases outcome <;> rfl

end Outcome

/-! ## Fields with other values -/

/-- The members of an object with other values. -/
def changeValues (change : String → Json → Json) (members : Members) : Members :=
  members.map fun member => (member.1, change member.1 member.2)

section Fields

variable {α : Type} {field : FieldName} (change : String → Json → Json) {view : Json → Json}
  {decode : Json → Outcome α} {post : α → α} {members : Members}
  (service : change field.service = view) (own : change field.own = view)
include service own

theorem FieldName.find?_changeValues :
    field.find? (changeValues change members) =
      (field.find? members).map fun found => (found.1, view found.2) := by
  rw [find?, find?, changeValues, lookup_map_values, lookup_map_values, service, own]
  cases members.lookup field.service with
  | some value => rfl
  | none =>
      cases members.lookup field.own with
      | some value => rfl
      | none => rfl

/-- **A field with another value is decoded to another value**, if its default stays. -/
theorem FieldName.optional_map (reads : ∀ value, decode (view value) = post <$> decode value)
    {default : α} (stays : post default = default) :
    field.optional default decode (changeValues change members) =
      post <$> field.optional default decode members := by
  rw [optional, optional, find?_changeValues change service own]
  cases field.find? members with
  | none => exact congrArg Outcome.value stays.symm
  | some found => exact (congrArg _ (reads found.2)).trans (Outcome.under_map _ _ _)

theorem FieldName.required_alike (reads : ∀ value, decode (view value) = decode value) :
    field.required decode (changeValues change members) = field.required decode members := by
  rw [required, required, find?_changeValues change service own]
  cases field.find? members with
  | none => rfl
  | some found => exact congrArg (Outcome.under _) (reads found.2)

/-- **A field may hold another value that is decoded to the same.** -/
theorem FieldName.optional_alike (reads : ∀ value, decode (view value) = decode value)
    {default : α} : field.optional default decode (changeValues change members) =
      field.optional default decode members := by
  rw [optional, optional, find?_changeValues change service own]
  cases field.find? members with
  | none => rfl
  | some found => exact congrArg (Outcome.under _) (reads found.2)

end Fields

section Same

variable {α : Type} {field : FieldName} (change : String → Json → Json) {decode : Json → Outcome α}
  {members : Members} (service : change field.service = id) (own : change field.own = id)
include service own

theorem FieldName.required_kept :
    field.required decode (changeValues change members) = field.required decode members :=
  required_alike change service own fun _ => rfl

theorem FieldName.optional_kept {default : α} :
    field.optional default decode (changeValues change members) =
      field.optional default decode members :=
  optional_alike change service own fun _ => rfl

end Same

end Decoding

end DashboardExport
