import DashboardExport.Proofs.Decoding.Rejections

/-!
# Parameters of a known kind

A parameter that is decoded has the kind that the type of its payload stands for
(`exists_typed_of_decode`), and its value is what the payload holds for that kind
(`value_of_ofKind`).
-/

set_option autoImplicit false

namespace DashboardExport.Parameter

open Decoding

/-- A payload of a known kind is decoded as one. -/
theorem decode_of_typed {members : Members} {kind : ParameterKind}
    (typed : members.lookup typeField.service = some (.str kind.discriminant)) :
    decode (.obj members) = decodeKnown kind members := by
  simp only [decode, typed, Option.getD_some, ParameterKind.ofDiscriminant?_discriminant]

/-- A payload of a known kind that is decoded has fields that fit. -/
theorem ofKind_of_typed {members : Members} {kind : ParameterKind} {parameter : Parameter}
    (typed : members.lookup typeField.service = some (.str kind.discriminant))
    (read : decode (.obj members) = .value parameter) :
    ofKind kind members = .value parameter := by
  rw [decode_of_typed typed, decodeKnown] at read
  split at read
  · cases read
  · exact read

/-! ## Name and title, and the value -/

/-- The name and the title of a parameter, which wait for its value. -/
def heading (members : Members) : Outcome (ParameterValue → Parameter) :=
  Parameter.mk <$> nameField.required string members
    <*> titleField.optional none (nullable string) members

theorem ofKind_eq (kind : ParameterKind) (members : Members) :
    ofKind kind members = (heading members <*> valueOfKind members kind) := rfl

/-- The name and the title may not fit, but they do not reject a parameter. -/
theorem rejection?_heading (members : Members) : (heading members).rejection? = none := by
  simp [heading, rejection?_nullable rejection?_string]

/-- A name and a title that fit wait for nothing but the value. -/
theorem exists_of_heading {members : Members} {build : ParameterValue → Parameter}
    (headed : heading members = .value build) :
    ∃ name title, build = Parameter.mk name title := by
  obtain ⟨make, title, named, _, rfl⟩ := Outcome.seq_eq_value_iff.1 headed
  obtain ⟨name, _, rfl⟩ := Outcome.map_eq_value_iff.1 named
  exact ⟨name, title, rfl⟩

/-- **The value of a parameter is decoded for its kind.** -/
theorem value_of_ofKind {kind : ParameterKind} {members : Members} {parameter : Parameter}
    (read : ofKind kind members = .value parameter) :
    valueOfKind members kind = .value parameter.value := by
  obtain ⟨build, value, headed, valued, rfl⟩ := Outcome.seq_eq_value_iff.1 read
  obtain ⟨name, title, rfl⟩ := exists_of_heading headed
  exact valued

/-! ## Kinds -/

theorem kind_of_valueOfKind {kind : ParameterKind} {members : Members} {value : ParameterValue}
    (read : valueOfKind members kind = .value value) : value.kind = kind := by
  cases kind with
  | single kind =>
      obtain ⟨text, _, rfl⟩ := Outcome.map_eq_value_iff.1 read
      rfl
  | number =>
      obtain ⟨number, _, rfl⟩ := Outcome.map_eq_value_iff.1 read
      rfl
  | choice =>
      obtain ⟨build, options, selected, _, rfl⟩ := Outcome.seq_eq_value_iff.1 read
      obtain ⟨selection, _, rfl⟩ := Outcome.map_eq_value_iff.1 selected
      rfl
  | queryBacked =>
      obtain ⟨build, id, selected, _, rfl⟩ := Outcome.seq_eq_value_iff.1 read
      obtain ⟨selection, _, rfl⟩ := Outcome.map_eq_value_iff.1 selected
      rfl

/-- **A decoded parameter has the kind that the type of its payload stands for.** -/
theorem exists_typed_of_decode {payload : Json} {parameter : Parameter}
    (read : decode payload = .value parameter) :
    ∃ members, payload = .obj members ∧
      members.lookup typeField.service = some (.str parameter.kind.discriminant) ∧
      ofKind parameter.kind members = .value parameter := by
  have way := decodes payload
  rw [read] at way
  cases way with
  | accepted typed fields =>
      have kind := kind_of_valueOfKind (value_of_ofKind fields)
      rw [Parameter.kind, kind]
      exact ⟨_, rfl, typed, fields⟩

/-! ## Integers -/

/-- **An integer is taken as the number nearest to it**, if that is finite; others are refused. -/
theorem value_of_integer {members : Members} {n : Int} {parameter : Parameter}
    (typed : members.lookup typeField.service = some (.str ParameterKind.number.discriminant))
    (given : members.lookup valueField.service = some (.int n))
    (accepted : decode (.obj members) = .value parameter) :
    (Binary64.ofInt n).isFinite = true ∧
      parameter.value = .number (some (Binary64.ofInt n)) := by
  have valued := value_of_ofKind (ofKind_of_typed typed accepted)
  obtain ⟨value, read, same⟩ := Outcome.map_eq_value_iff.1 valued
  rw [FieldName.optional_of_service given] at read
  have number := Outcome.under_eq_value_iff.1 read
  rw [Decoding.number, Scalar.ofJson, Scalar.number] at number
  split at number
  · next finite =>
      cases number
      exact ⟨finite, same.symm⟩
  · cases number

end DashboardExport.Parameter
