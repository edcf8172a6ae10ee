import DashboardExport.Proofs.Decoding.Nulls
import DashboardExport.Proofs.Model.Parameters

/-!
# Parameters without a value

The value of a parameter may be null.  Where a text, a choice or a choice from the results
of a query is expected, that is the same as no value: the parameter is decoded in the same
way, whatever its other fields hold.  A number is decoded as it stands, and null is no
number, so a number parameter with a null value is refused although without a value it
counts as zero (`nullValue_alike_iff`).
-/

set_option autoImplicit false

namespace DashboardExport

open Decoding

namespace Parameter

/-- A payload of a known kind whose fields do not fit. -/
def misfit (kind : ParameterKind) (members : Members) (issues : List Issue) : Outcome Parameter :=
  .rejected (.invalidParameter kind.discriminant
    ((members.lookup nameField.service).getD .null) issues)

section NullValue

variable {given absent : Members} (null : NullFor valueField.service given absent)
include null

theorem heading_null : heading given = heading absent := by
  rw [heading, heading, null.required (by decide) (by decide),
    null.optional (by decide) (by decide)]

theorem misfit_null (kind : ParameterKind) (issues : List Issue) :
    misfit kind given issues = misfit kind absent issues := by
  have name : given.lookup nameField.service = absent.lookup nameField.service :=
    null.others _ (by decide)
  rw [misfit, misfit, name]

/-! ## Texts and choices -/

theorem selection_null (noValues : absent.lookup valuesField.own = none) :
    selection given = selection absent := by
  have sameName : NullFor valuesField.service given absent := null
  have values : valuesField.optional [] plainValues given =
      valuesField.optional [] plainValues absent := sameName.optional_null noValues rfl
  rw [selection, selection, values, null.optional (by decide) (by decide)]

/-- **Null counts as no value, except for a number.** -/
theorem valueOfKind_null {kind : ParameterKind} (noNumber : kind ≠ .number)
    (noValues : absent.lookup valuesField.own = none) :
    valueOfKind given kind = valueOfKind absent kind := by
  cases kind with
  | single kind =>
      have text : valueField.optional "" singleText given =
          valueField.optional "" singleText absent := null.optional_null null.none rfl
      rw [valueOfKind, valueOfKind, text]
  | number => exact absurd rfl noNumber
  | choice =>
      rw [valueOfKind, valueOfKind, selection_null null noValues,
        null.optional (by decide) (by decide)]
  | queryBacked =>
      rw [valueOfKind, valueOfKind, selection_null null noValues,
        null.optional (by decide) (by decide)]

theorem decodeKnown_null {kind : ParameterKind} (noNumber : kind ≠ .number)
    (noValues : absent.lookup valuesField.own = none) :
    decodeKnown kind given = decodeKnown kind absent := by
  have fields : ofKind kind given = ofKind kind absent := by
    rw [ofKind_eq, ofKind_eq, heading_null null, valueOfKind_null null noNumber noValues]
  have refused := misfit_null null kind
  simp only [misfit] at refused
  simp only [decodeKnown, fields, refused]

/-! ## Numbers -/

/-- What is wrong with a number that is null. -/
def nullNumber : Issue := ⟨[.key valueField.service], .notNumber⟩

theorem valueOfKind_number_given : valueOfKind given .number = .invalid [nullNumber] := by
  rw [valueOfKind, null.optional_given]
  rfl

theorem valueOfKind_number_absent : valueOfKind absent .number = .value (.number none) := by
  rw [valueOfKind, null.optional_absent null.none]
  rfl

/-- **A number that is null is refused**, with whatever else is wrong, and a number that is not
there counts as zero. -/
theorem decodeKnown_number :
    ∃ issues, decodeKnown .number given = misfit .number absent (issues ++ [nullNumber]) ∧
      ((issues = [] ∧ ∃ parameter, decodeKnown .number absent = .value parameter ∧
          parameter.value = .number none) ∨
        decodeKnown .number absent = misfit .number absent issues) := by
  have fields (members : Members) {outcome : Outcome ParameterValue}
      (value : valueOfKind members .number = outcome) :
      ofKind .number members = (heading members <*> outcome) := by rw [ofKind_eq, value]
  have whole := fields given (valueOfKind_number_given null)
  have part := fields absent (valueOfKind_number_absent null)
  rw [heading_null null] at whole
  have never := rejection?_heading absent
  cases heads : heading absent with
  | value build =>
      obtain ⟨name, title, rfl⟩ := exists_of_heading heads
      rw [heads] at whole part
      refine ⟨[], ?_, .inl ⟨rfl, ⟨name, title, .number none⟩, ?_, rfl⟩⟩
      · rw [← misfit_null null, decodeKnown, whole]
        rfl
      · rw [decodeKnown, part]
        rfl
  | invalid issues =>
      rw [heads] at whole part
      refine ⟨issues, ?_, .inr ?_⟩
      · rw [← misfit_null null, decodeKnown, whole]
        rfl
      · rw [decodeKnown, part]
        rfl
  | rejected rejection =>
      rw [heads] at never
      cases never

end NullValue

/-- **Null counts as no value for every kind of parameter but a number.**  The payloads differ in
nothing but a null value, and give the same parameter, or the same failure with the same issues,
exactly when the kind is not a number.  A number that is null is refused, with whatever else is
wrong with the payload; one that is not there counts as zero. -/
theorem nullValue_alike_iff {given absent : Members} {kind : ParameterKind}
    (null : NullFor valueField.service given absent)
    (typed : absent.lookup typeField.service = some (.str kind.discriminant))
    (noValues : absent.lookup valuesField.own = none) :
    (decode (.obj given) = decode (.obj absent) ↔ kind ≠ .number) ∧
      (kind = .number → ∃ issues,
        decode (.obj given) = misfit kind absent (issues ++ [nullNumber]) ∧
        ((issues = [] ∧ ∃ parameter, decode (.obj absent) = .value parameter ∧
            parameter.value = .number none) ∨
          decode (.obj absent) = misfit kind absent issues)) := by
  have typedGiven : given.lookup typeField.service = some (.str kind.discriminant) :=
    (null.others _ (by decide)).trans typed
  rw [decode_of_typed typed, decode_of_typed typedGiven]
  refine ⟨⟨?_, fun noNumber => decodeKnown_null null noNumber noValues⟩, ?_⟩
  · rintro same rfl
    obtain ⟨issues, refused, ⟨_, parameter, read, _⟩ | others⟩ := decodeKnown_number null
    · rw [same, read] at refused
      cases refused
    · rw [same, others] at refused
      simp [misfit] at refused
  · rintro rfl
    exact decodeKnown_number null

/-- A choice without a value, with a title that does not fit. -/
def mistitledChoice : Members :=
  [("title", .int 1), ("type", .str "enum"), ("name", .str "region"),
    ("enumOptions", .str "EMEA\nAPAC")]

theorem nullValue_alike_choice :
    NullFor valueField.service (("value", .null) :: mistitledChoice) mistitledChoice ∧
      mistitledChoice.lookup typeField.service = some (.str ParameterKind.choice.discriminant) ∧
      mistitledChoice.lookup valuesField.own = none ∧
      decode (.obj (("value", .null) :: mistitledChoice)) = decode (.obj mistitledChoice) := by
  have null := @nullFor_append_cons "value" [] mistitledChoice rfl rfl
  have typed : mistitledChoice.lookup typeField.service =
      some (.str ParameterKind.choice.discriminant) := rfl
  exact ⟨null, typed, rfl, (nullValue_alike_iff null typed rfl).1.2 nofun⟩

/-- A number without a value. -/
def limitNumber : Members := [("name", .str "limit"), ("type", .str "number")]

/-- **A number that is null is refused**, although the parameter is accepted without it. -/
theorem nullValue_refuses_number :
    NullFor valueField.service (("value", .null) :: limitNumber) limitNumber ∧
      limitNumber.lookup typeField.service = some (.str ParameterKind.number.discriminant) ∧
      limitNumber.lookup valuesField.own = none ∧
      decode (.obj limitNumber) = .value ⟨"limit", none, .number none⟩ ∧
      decode (.obj (("value", .null) :: limitNumber)) =
        .rejected (.invalidParameter "number" (.str "limit") [⟨[.key "value"], .notNumber⟩]) :=
  ⟨@nullFor_append_cons "value" [] limitNumber rfl rfl, rfl, rfl, rfl, rfl⟩

end Parameter

end DashboardExport
