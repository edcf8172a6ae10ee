import DashboardExport.Proofs.Model.Parameters
import DashboardExport.Proofs.Service.Answers

/-!
# Lists of parameters

The parameters of a query come in a list in which all kinds may stand, in any order.  Each item
is decoded for the kind that its own type names, so the list is decoded if and only if every
item of it is, and then to as many parameters in the same order (`QueryOptions.decode_parameters`).
Otherwise the first item that is refused says why.

An item may also be a parameter that is decoded already.  It is taken as it is, so nothing
changes when a payload is replaced by what it is decoded to
(`Parameter.decodeItems_of_standsFor`).
-/

set_option autoImplicit false

namespace DashboardExport

open Decoding

namespace Parameter

/-! ## What is decoded already -/

/-- An item stands for a payload: it is the payload, or the parameter that it is decoded to. -/
inductive Item.StandsFor : Item → Json → Prop where
  | payload (value : Json) : Item.StandsFor (.payload value) value
  | decoded {value : Json} {parameter : Parameter}
      (read : Parameter.decode value = .value parameter) :
      Item.StandsFor (.decoded parameter) value

theorem Item.decode_of_standsFor {item : Item} {value : Json} (stands : item.StandsFor value) :
    item.decode = Parameter.decode value := by
  cases stands with
  | payload _ => rfl
  | decoded read => exact read.symm

/-- **What is decoded already stays as it is**, and so does all that is refused. -/
theorem decodeItems_of_standsFor {items : List Item} {values : List Json}
    (stand : List.Forall₂ Item.StandsFor items values) :
    decodeItems items = decodeList (.arr values) := by
  have each (position : Nat) :
      itemsFrom Item.decode position items = itemsFrom Parameter.decode position values := by
    induction stand generalizing position with
    | nil => rfl
    | cons here _ ih => rw [itemsFrom, itemsFrom, Item.decode_of_standsFor here, ih]
  exact each 0

/-! ## Kinds and errors -/

/-- A parameter is of the kind that the type of its payload names. -/
def TypedBy (payload : Json) (parameter : Parameter) : Prop :=
  ∃ members type, payload = .obj members ∧
    members.lookup typeField.service = some (.str type) ∧
    ParameterKind.ofDiscriminant? type = some parameter.kind ∧
    ofKind parameter.kind members = .value parameter

theorem typedBy_of_decode {payload : Json} {parameter : Parameter}
    (read : decode payload = .value parameter) : TypedBy payload parameter := by
  obtain ⟨members, rfl, typed, fields⟩ := exists_typed_of_decode read
  exact ⟨members, _, rfl, typed, ParameterKind.ofDiscriminant?_discriminant _, fields⟩

/-- A payload is an object whose type names no kind. -/
def HasUnknownType (payload : Json) : Prop :=
  ∃ members, payload = .obj members ∧
    ∀ kind : ParameterKind, members.lookup typeField.service ≠ some (.str kind.discriminant)

/-- The type of a payload can be looked up: it is missing, or it is no list and no object. -/
def HasPlainType (payload : Json) : Prop :=
  ∀ members type, payload = .obj members → members.lookup typeField.service = some type →
    type.isCompound = false

/-- **Which error a refused parameter is**: an unknown type, or fields that do not fit. -/
theorem refusal_of_decode {payload : Json} {rejection : Rejection}
    (plain : HasPlainType payload) (rejected : decode payload = .rejected rejection) :
    ((∃ type, Refusal.ofRejection rejection = .unknownParameterType type) ↔
        HasUnknownType payload) ∧
      (¬ HasUnknownType payload → (Refusal.ofRejection rejection).isMismatch = true) := by
  have way := decodes payload
  rw [rejected] at way
  cases way with
  | @misfit members kind issues typed read =>
      have known : ¬ HasUnknownType (.obj members) := by
        rintro ⟨_, ⟨⟩, unknown⟩
        exact unknown kind typed
      exact ⟨⟨nofun, fun unknown => absurd unknown known⟩, fun _ => rfl⟩
  | @unknown members type typed scalar others =>
      have unknown : HasUnknownType (.obj members) := by
        refine ⟨members, rfl, fun kind found => others kind ?_⟩
        rw [← typed, found, Option.getD_some]
      exact ⟨⟨fun _ => unknown, fun _ => ⟨type, rfl⟩⟩, fun known => absurd unknown known⟩
  | @unusable members type typed compound =>
      rw [plain members type rfl typed] at compound
      cases compound
  | noObject others =>
      have known : ¬ HasUnknownType payload := by
        rintro ⟨members, rfl, -⟩
        exact others members rfl
      exact ⟨⟨nofun, fun unknown => absurd unknown known⟩, fun _ => rfl⟩

end Parameter

/-! ## Options of queries -/

namespace QueryOptions

variable {members : Members} {items : List Json}
  (given : members.lookup parametersField.service = some (.arr items))
include given

theorem decode_of_parameters :
    decode (.obj members) = QueryOptions.mk <$>
      (Parameter.decodeList (.arr items)).under (.key parametersField.service) := by
  rw [decode, object, FieldName.optional_of_service given]

theorem decode_eq_value_iff {options : QueryOptions} :
    decode (.obj members) = .value options ↔
      List.Forall₂ (fun item parameter => Parameter.decode item = .value parameter) items
        options.parameters := by
  rw [decode_of_parameters given, Outcome.map_eq_value_iff]
  simp only [Outcome.under_eq_value_iff, Parameter.decodeList, itemsFrom_eq_value_iff]
  constructor
  · rintro ⟨parameters, read, rfl⟩
    exact read
  · intro read
    exact ⟨options.parameters, read, rfl⟩

theorem decode_eq_rejected_iff {rejection : Rejection} :
    decode (.obj members) = .rejected rejection ↔
      Parameter.decodeList (.arr items) = .rejected rejection := by
  rw [← Outcome.rejection?_eq_some_iff, ← Outcome.rejection?_eq_some_iff, rejection?_decode, given,
    Option.bind_some]

theorem exists_decode_iff :
    (∃ options, decode (.obj members) = .value options) ↔
      ∀ item ∈ items, ∃ parameter, Parameter.decode item = .value parameter := by
  rw [← exists_forall₂_iff]
  constructor
  · rintro ⟨options, read⟩
    exact ⟨_, (decode_eq_value_iff given).1 read⟩
  · rintro ⟨parameters, read⟩
    exact ⟨⟨parameters⟩, (decode_eq_value_iff given).2 read⟩

/-- Options with a list of parameters are decoded, or rejected with it. -/
theorem decode_value_or_rejected :
    (∃ options, decode (.obj members) = .value options) ∨
      ∃ rejection, decode (.obj members) = .rejected rejection := by
  cases refused : (Parameter.decodeList (.arr items)).rejection? with
  | some rejection =>
      exact .inr ⟨rejection,
        (decode_eq_rejected_iff given).2 (Outcome.rejection?_eq_some_iff.1 refused)⟩
  | none =>
      rw [Parameter.decodeList, rejection?_itemsFrom, List.findSome?_eq_none_iff] at refused
      exact .inl ((exists_decode_iff given).2 fun item member =>
        Parameter.exists_of_rejection?_eq_none (refused item member))

/-- **The first parameter that is refused says why.** -/
theorem exists_refused {subject : Subject} {refusal : Refusal}
    (refused : Refusal.ofOutcome subject (decode (.obj members)) = .error refusal) :
    ∃ earlier item later rejection, items = earlier ++ item :: later ∧
      (∀ other ∈ earlier, ∃ parameter, Parameter.decode other = .value parameter) ∧
      Parameter.decode item = .rejected rejection ∧ refusal = Refusal.ofRejection rejection := by
  rcases decode_value_or_rejected given with ⟨options, read⟩ | ⟨rejection, read⟩
  · rw [read] at refused
    cases refused
  · rw [read] at refused
    cases refused
    obtain ⟨earlier, item, later, same, accepted, here⟩ :=
      Parameter.decodeList_eq_rejected_iff.1 ((decode_eq_rejected_iff given).1 read)
    exact ⟨earlier, item, later, rejection, same, accepted, here, rfl⟩

/-- **The parameters of a query are decoded one by one, each for its own kind.**  Let the type of
every object in the list be missing, or no list and no object.  Then the options are decoded if
and only if every parameter is; the parameters come in the order of their payloads, each of the
kind that its payload names; and otherwise the error is the one of the first payload that is
refused: an unknown type if that is an object whose type names no kind, and a mismatch in every
other case.  Nothing changes if some payloads are replaced by the parameters that they are decoded
to. -/
theorem decode_parameters
    (plain : ∀ item ∈ items, Parameter.HasPlainType item) :
    ((∃ options, decode (.obj members) = .value options) ↔
        ∀ item ∈ items, ∃ parameter, Parameter.decode item = .value parameter) ∧
      (∀ options, decode (.obj members) = .value options →
        List.Forall₂ (fun item parameter =>
          Parameter.decode item = .value parameter ∧ Parameter.TypedBy item parameter) items
          options.parameters) ∧
      (∀ subject refusal, Refusal.ofOutcome subject (decode (.obj members)) = .error refusal →
        ∃ earlier item later, items = earlier ++ item :: later ∧
          (∀ other ∈ earlier, ∃ parameter, Parameter.decode other = .value parameter) ∧
          Refusal.ofOutcome subject (Parameter.decode item) = .error refusal ∧
          ((∃ type, refusal = .unknownParameterType type) ↔ Parameter.HasUnknownType item) ∧
          (¬ Parameter.HasUnknownType item → refusal.isMismatch = true)) ∧
      ∀ again, List.Forall₂ Parameter.Item.StandsFor again items →
        ofItems again = decode (.obj members) := by
  refine ⟨exists_decode_iff given, fun options read => ?_, ?_, fun again stand => ?_⟩
  · refine ((decode_eq_value_iff given).1 read).imp fun item parameter here => ?_
    exact ⟨here, Parameter.typedBy_of_decode here⟩
  · intro subject refusal refused
    obtain ⟨earlier, item, later, rejection, same, accepted, here, rfl⟩ :=
      exists_refused given refused
    have inside : item ∈ items := by
      rw [same]
      exact List.mem_append_right earlier List.mem_cons_self
    obtain ⟨unknown, mismatch⟩ := Parameter.refusal_of_decode (plain item inside) here
    exact ⟨earlier, item, later, same, accepted, by rw [here]; rfl, unknown, mismatch⟩
  · rw [ofItems, Parameter.decodeItems_of_standsFor stand, decode_of_parameters given]

omit given

/-- A date, a number that is written as a text, and a parameter of no known type before one that is
no object. -/
def mixedParameters : List Json :=
  [.obj [("type", .str "date-range"), ("name", .str "period"), ("value", .null)],
    .obj [("name", .str "limit"), ("value", .str "7"), ("type", .str "number")],
    .obj [("name", .str "x"), ("type", .str "hologram")], .int 5]

theorem decode_parameters_mixed :
    (∀ item ∈ mixedParameters, Parameter.HasPlainType item) ∧
      ∃ earlier item later refusal, mixedParameters = earlier ++ item :: later ∧
        (∀ other ∈ earlier, ∃ parameter, Parameter.decode other = .value parameter) ∧
        Parameter.HasUnknownType item ∧
        Refusal.ofOutcome (.part "QueryOptions")
          (decode (.obj [("parameters", .arr mixedParameters)])) = .error refusal ∧
        refusal = .unknownParameterType (.str "hologram") := by
  have plain : ∀ item ∈ mixedParameters, Parameter.HasPlainType item := by
    intro item member inner type same found
    simp only [mixedParameters, List.mem_cons, List.not_mem_nil, or_false] at member
    rcases member with rfl | rfl | rfl | rfl
    all_goals cases same <;> cases found <;> rfl
  have refused : Refusal.ofOutcome (.part "QueryOptions")
      (decode (.obj [("parameters", .arr mixedParameters)])) =
        .error (.unknownParameterType (.str "hologram")) := by decide +kernel
  obtain ⟨-, -, errors, -⟩ :=
    @decode_parameters [("parameters", .arr mixedParameters)] mixedParameters rfl plain
  obtain ⟨earlier, item, later, same, accepted, -, unknown, -⟩ := errors _ _ refused
  exact ⟨plain, earlier, item, later, _, same, accepted, unknown.1 ⟨_, rfl⟩, refused, rfl⟩

end QueryOptions

end DashboardExport
