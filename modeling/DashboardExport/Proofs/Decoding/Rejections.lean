import DashboardExport.Model.Dashboard
import DashboardExport.Model.Query
import DashboardExport.Model.Refusal
import DashboardExport.Model.TableOptions
import DashboardExport.Proofs.Decoding.Values

/-!
# When decoding is rejected

Fields are decoded in order and the first rejection ends the decoding
(`Outcome.rejection?_seq`), so a payload is rejected exactly when one of its fields is, and
a list when one of its items is (`rejection?_itemsFrom`).

Only parameters are ever rejected.  So dashboards and table options never are, and a query
is rejected exactly when what stands in place of its parameters is
(`Query.rejection?_decode`).  Of the ways in which that can be rejected, two are not foreseen:
the value has no items, or the type of a parameter is a list or an object
(`Parameter.unforeseen_iff`).
-/

set_option autoImplicit false

namespace DashboardExport

namespace Decoding

/-! ## Outcomes -/

namespace Outcome

variable {α β : Type}

/-- The rejection of an outcome, if it is one. -/
def rejection? : Outcome α → Option Rejection
  | .rejected rejection => some rejection
  | _ => none

theorem rejection?_eq_some_iff {outcome : Outcome α} {rejection : Rejection} :
    outcome.rejection? = some rejection ↔ outcome = .rejected rejection := by
  cases outcome with
  | value result => simp [rejection?]
  | invalid issues => simp [rejection?]
  | rejected other => simp [rejection?]

@[simp] theorem rejection?_value (result : α) : (Outcome.value result).rejection? = none := rfl

@[simp] theorem rejection?_map (change : α → β) (outcome : Outcome α) :
    (change <$> outcome).rejection? = outcome.rejection? := by
  cases outcome <;> rfl

@[simp] theorem rejection?_under (step : Step) (outcome : Outcome α) :
    (outcome.under step).rejection? = outcome.rejection? := by
  cases outcome <;> rfl

/-- The first rejection counts. -/
@[simp] theorem rejection?_and (first : Outcome α) (second : Outcome β) :
    (first.and second).rejection? = first.rejection?.or second.rejection? := by
  cases first <;> cases second <;> rfl

/-- **Fields are rejected in order.** -/
@[simp] theorem rejection?_seq (earlier : Outcome (α → β)) (field : Outcome α) :
    (earlier <*> field).rejection? = earlier.rejection?.or field.rejection? :=
  (rejection?_map _ _).trans (rejection?_and earlier field)

end Outcome

/-! ## Fields and values -/

section Fields

variable {α : Type} {decode : Json → Outcome α}

@[simp] theorem FieldName.rejection?_required (field : FieldName) (members : Members) :
    (field.required decode members).rejection? =
      (field.find? members).bind fun found => (decode found.2).rejection? := by
  rw [required]
  cases field.find? members with
  | none => rfl
  | some found => exact Outcome.rejection?_under _ _

@[simp] theorem FieldName.rejection?_optional (field : FieldName) (default : α)
    (members : Members) :
    (field.optional default decode members).rejection? =
      (field.find? members).bind fun found => (decode found.2).rejection? := by
  rw [optional]
  cases field.find? members with
  | none => rfl
  | some found => exact Outcome.rejection?_under _ _

/-- A value that is not the default was found. -/
theorem lookup_of_getD {members : Members} {name : String} {default value : Json}
    (given : (members.lookup name).getD default = value) (other : value ≠ default) :
    members.lookup name = some value := by
  cases found : members.lookup name with
  | none =>
      rw [found] at given
      exact absurd given.symm other
  | some held =>
      rw [found] at given
      exact congrArg some given

theorem rejection?_object {decode : Members → Outcome α}
    (never : ∀ members, (decode members).rejection? = none) (value : Json) :
    (object decode value).rejection? = none := by
  cases value with
  | obj members => exact never members
  | _ => rfl

/-- **A list is rejected with its first item that is.** -/
theorem rejection?_itemsFrom (decode : Json → Outcome α) (position : Nat) (items : List Json) :
    (itemsFrom decode position items).rejection? =
      items.findSome? fun item => (decode item).rejection? := by
  induction items generalizing position with
  | nil => rfl
  | cons item rest ih =>
      rw [itemsFrom]
      refine (Outcome.rejection?_map _ _).trans ?_
      rw [Outcome.rejection?_and, Outcome.rejection?_under, ih, List.findSome?_cons]
      cases (decode item).rejection? with
      | none => rfl
      | some rejection => rfl

theorem rejection?_list (never : ∀ value, (decode value).rejection? = none) (value : Json) :
    (list decode value).rejection? = none := by
  cases value with
  | arr items =>
      rw [list, rejection?_itemsFrom]
      exact List.findSome?_eq_none_iff.2 fun item _ => never item
  | _ => rfl

theorem rejection?_listOrNull (never : ∀ value, (decode value).rejection? = none)
    (value : Json) : (listOrNull decode value).rejection? = none := by
  by_cases isNull : value = .null
  · rw [isNull]
    rfl
  · rw [listOrNull]
    · exact rejection?_list never value
    · exact isNull

theorem rejection?_nullable (never : ∀ value, (decode value).rejection? = none) (value : Json) :
    (nullable decode value).rejection? = none := by
  cases value with
  | null => rfl
  | _ => exact (Outcome.rejection?_map _ _).trans (never _)

@[simp] theorem rejection?_ofExcept (result : Except Fault α) :
    (ofExcept result).rejection? = none := by
  cases result <;> rfl

@[simp] theorem rejection?_string (value : Json) : (string value).rejection? = none := by
  cases value <;> rfl

@[simp] theorem rejection?_remoteId (value : Json) : (remoteId value).rejection? = none := by
  cases value <;> rfl

@[simp] theorem rejection?_integer (value : Json) : (integer value).rejection? = none :=
  rejection?_ofExcept _

@[simp] theorem rejection?_number (value : Json) : (number value).rejection? = none :=
  rejection?_ofExcept _

@[simp] theorem rejection?_boolean (value : Json) : (boolean value).rejection? = none :=
  rejection?_ofExcept _

@[simp] theorem rejection?_raw (value : Json) : (raw value).rejection? = none := rfl

end Fields

end Decoding

open Decoding

/-! ## Models that are never rejected -/

theorem Dashboard.rejection?_decode (value : Json) : (decode value).rejection? = none := by
  refine rejection?_object (fun members => ?_) value
  simp [rejection?_listOrNull rejection?_string, rejection?_listOrNull rejection?_raw]

theorem TableColumn.rejection?_decode (value : Json) : (decode value).rejection? = none := by
  refine rejection?_object (fun members => ?_) value
  simp [rejection?_list]

theorem TableOptions.rejection?_decode (value : Json) : (decode value).rejection? = none := by
  refine rejection?_object (fun members => ?_) value
  simp [rejection?_listOrNull TableColumn.rejection?_decode]

theorem MultipleValues.rejection?_decode (value : Json) : (decode value).rejection? = none := by
  refine rejection?_object (fun members => ?_) value
  simp

theorem Schedule.rejection?_decode (value : Json) : (decode value).rejection? = none := by
  refine rejection?_object (fun members => ?_) value
  simp

/-! ## Parameters -/

/-- Whether a value is a list or an object. -/
def Json.isCompound : Json → Bool
  | .arr _ => true
  | .obj _ => true
  | _ => false

namespace Parameter

theorem rejection?_selection (members : Members) : (selection members).rejection? = none := by
  have values (value : Json) : (plainValues value).rejection? = none := by
    cases value <;> rfl
  simp [selection, values, rejection?_nullable MultipleValues.rejection?_decode]

/-- The fields of a parameter may not fit, but they do not reject it by themselves. -/
theorem rejection?_ofKind (kind : ParameterKind) (members : Members) :
    (ofKind kind members).rejection? = none := by
  have text (value : Json) : (singleText value).rejection? = none := by
    cases value <;> rfl
  have given (value : Json) : ((number value).map some).rejection? = none :=
    (Outcome.rejection?_map some (number value)).trans (rejection?_number value)
  have title := rejection?_nullable rejection?_string
  cases kind <;> simp [ofKind, valueOfKind, rejection?_selection, text, given, title]

/-- What a parameter is decoded to: a value, if its type is known and its fields fit. -/
inductive Decodes : Json → Outcome Parameter → Prop where
  | accepted {members : Members} {kind : ParameterKind} {parameter : Parameter}
      (typed : members.lookup typeField.service = some (.str kind.discriminant))
      (read : ofKind kind members = .value parameter) :
      Decodes (.obj members) (.value parameter)
  | misfit {members : Members} {kind : ParameterKind} {issues : List Issue}
      (typed : members.lookup typeField.service = some (.str kind.discriminant))
      (read : ofKind kind members = .invalid issues) :
      Decodes (.obj members) (.rejected (.invalidParameter kind.discriminant
        ((members.lookup nameField.service).getD .null) issues))
  /-- The type is a text or another scalar value that stands for no kind; null if there is none. -/
  | unknown {members : Members} {type : Json}
      (typed : (members.lookup typeField.service).getD .null = type)
      (scalar : type.isCompound = false)
      (others : ∀ kind : ParameterKind, type ≠ .str kind.discriminant) :
      Decodes (.obj members) (.rejected (.unknownParameterType type))
  | unusable {members : Members} {type : Json}
      (typed : members.lookup typeField.service = some type)
      (compound : type.isCompound = true) :
      Decodes (.obj members) (.rejected (.unusableDiscriminant type.kindName))
  | noObject {item : Json} (others : ∀ members, item ≠ .obj members) :
      Decodes item (.rejected (.parameterNotObject item.kindName))

theorem decodes_known {members : Members} {kind : ParameterKind}
    (typed : members.lookup typeField.service = some (.str kind.discriminant)) :
    Decodes (.obj members) (decodeKnown kind members) := by
  rw [decodeKnown]
  cases read : ofKind kind members with
  | value parameter => exact .accepted typed read
  | invalid issues => exact .misfit typed read
  | rejected rejection =>
      have fields := rejection?_ofKind kind members
      rw [read] at fields
      cases fields

/-- **Every parameter is decoded in one of these ways.** -/
theorem decodes (item : Json) : Decodes item (decode item) := by
  cases item with
  | obj members =>
      rw [decode]
      cases typed : (members.lookup typeField.service).getD .null with
      | str text =>
          dsimp only
          cases known : ParameterKind.ofDiscriminant? text with
          | some kind =>
              obtain rfl := ParameterKind.discriminant_of_ofDiscriminant? known
              exact decodes_known (lookup_of_getD typed nofun)
          | none =>
              refine .unknown typed rfl ?_
              rintro kind same
              rw [Json.str.inj same, ParameterKind.ofDiscriminant?_discriminant] at known
              cases known
      | arr items => exact .unusable (lookup_of_getD typed nofun) rfl
      | obj inner => exact .unusable (lookup_of_getD typed nofun) rfl
      | null => exact .unknown typed rfl (fun _ => nofun)
      | bool b => exact .unknown typed rfl (fun _ => nofun)
      | int n => exact .unknown typed rfl (fun _ => nofun)
      | float x => exact .unknown typed rfl (fun _ => nofun)
  | _ => exact .noObject (fun _ => nofun)

/-- A parameter has a value, or it is rejected. -/
theorem exists_of_rejection?_eq_none {item : Json} (accepted : (decode item).rejection? = none) :
    ∃ parameter, decode item = .value parameter := by
  have way := decodes item
  generalize decode item = outcome at accepted way
  cases way with
  | accepted _ _ => exact ⟨_, rfl⟩
  | misfit _ _ => cases accepted
  | unknown _ _ _ => cases accepted
  | unusable _ _ => cases accepted
  | noObject _ => cases accepted

/-- A parameter is rejected in a way that is not foreseen when its type cannot be looked up. -/
theorem exists_unreported_iff {item : Json} :
    (∃ rejection, decode item = .rejected rejection ∧
      (Refusal.ofRejection rejection).reported = false) ↔
      ∃ members type, item = .obj members ∧ members.lookup typeField.service = some type ∧
        type.isCompound = true := by
  constructor
  · rintro ⟨rejection, rejected, unreported⟩
    have way := decodes item
    rw [rejected] at way
    cases way with
    | misfit _ _ => cases unreported
    | unknown _ _ _ => cases unreported
    | unusable typed compound => exact ⟨_, _, rfl, typed, compound⟩
    | noObject _ => cases unreported
  · rintro ⟨members, type, rfl, typed, compound⟩
    have reads : decode (.obj members) = .rejected (.unusableDiscriminant type.kindName) := by
      rw [decode, typed, Option.getD_some]
      cases type with
      | arr items => rfl
      | obj inner => rfl
      | _ => cases compound
    exact ⟨_, reads, rfl⟩

/-- A parameter is of an unknown type when its type is a scalar value that stands for no kind. -/
theorem decode_eq_unknown_iff {item type : Json} :
    decode item = .rejected (.unknownParameterType type) ↔
      ∃ members, item = .obj members ∧ (members.lookup typeField.service).getD .null = type ∧
        type.isCompound = false ∧ ∀ kind : ParameterKind, type ≠ .str kind.discriminant := by
  have way := decodes item
  generalize decode item = outcome at way
  constructor
  · rintro rfl
    cases way with
    | unknown typed scalar others => exact ⟨_, rfl, typed, scalar, others⟩
  · rintro ⟨members, rfl, rfl, scalar, others⟩
    cases way with
    | accepted typed _ => exact absurd (by rw [typed, Option.getD_some]) (others _)
    | misfit typed _ => exact absurd (by rw [typed, Option.getD_some]) (others _)
    | unknown typed _ _ => rw [typed]
    | unusable typed compound =>
        rw [typed, Option.getD_some, compound] at scalar
        cases scalar
    | noObject others => exact absurd rfl (others members)

/-! ## Lists of parameters -/

/-- **The parameters of a list are rejected with the first one that is.** -/
theorem decodeList_eq_rejected_iff {items : List Json} {rejection : Rejection} :
    decodeList (.arr items) = .rejected rejection ↔
      ∃ earlier item later, items = earlier ++ item :: later ∧
        (∀ other ∈ earlier, ∃ parameter, decode other = .value parameter) ∧
        decode item = .rejected rejection := by
  rw [← Outcome.rejection?_eq_some_iff, decodeList, rejection?_itemsFrom,
    List.findSome?_eq_some_iff]
  simp only [Outcome.rejection?_eq_some_iff]
  constructor
  · rintro ⟨earlier, item, later, rfl, rejected, accepted⟩
    exact ⟨earlier, item, later, rfl,
      fun other member => exists_of_rejection?_eq_none (accepted other member), rejected⟩
  · rintro ⟨earlier, item, later, rfl, accepted, rejected⟩
    refine ⟨earlier, item, later, rfl, rejected, fun other member => ?_⟩
    obtain ⟨parameter, read⟩ := accepted other member
    rw [read, Outcome.rejection?_value]

/-- What stands in place of the parameters of a query and is not foreseen. -/
inductive Unforeseen : Json → Prop where
  /-- A truth value or a number has no items. -/
  | truth (value : Bool) : Unforeseen (.bool value)
  | integer (value : Int) : Unforeseen (.int value)
  | number (value : Binary64) : Unforeseen (.float value)
  /-- Behind parameters that are accepted there is one whose type is a list or an object. -/
  | type {earlier later : List Json} {members : Members} {type : Json}
      (accepted : ∀ item ∈ earlier, ∃ parameter, decode item = .value parameter)
      (typed : members.lookup typeField.service = some type)
      (compound : type.isCompound = true) :
      Unforeseen (.arr (earlier ++ .obj members :: later))

/-- **What is not foreseen is what ends a run without an answer.** -/
theorem unforeseen_iff {value : Json} :
    Unforeseen value ↔ ∃ rejection, decodeList value = .rejected rejection ∧
      (Refusal.ofRejection rejection).reported = false := by
  constructor
  · intro unforeseen
    cases unforeseen with
    | truth b => exact ⟨_, rfl, rfl⟩
    | integer n => exact ⟨_, rfl, rfl⟩
    | number x => exact ⟨_, rfl, rfl⟩
    | type accepted typed compound =>
        obtain ⟨rejection, here, unreported⟩ :=
          exists_unreported_iff.2 ⟨_, _, rfl, typed, compound⟩
        exact ⟨rejection, decodeList_eq_rejected_iff.2 ⟨_, _, _, rfl, accepted, here⟩, unreported⟩
  · rintro ⟨rejection, rejected, unreported⟩
    cases value with
    | null => cases rejected
    | bool b => exact .truth b
    | int n => exact .integer n
    | float x => exact .number x
    | str text =>
        rw [decodeList] at rejected
        split at rejected
        · cases rejected
        · cases rejected
          cases unreported
    | arr items =>
        obtain ⟨earlier, item, later, rfl, accepted, here⟩ := decodeList_eq_rejected_iff.1 rejected
        obtain ⟨members, type, rfl, typed, compound⟩ :=
          exists_unreported_iff.1 ⟨rejection, here, unreported⟩
        exact .type accepted typed compound
    | obj members =>
        cases members with
        | nil => cases rejected
        | cons first rest =>
            cases rejected
            cases unreported

end Parameter

/-! ## Queries -/

theorem QueryOptions.rejection?_decode (members : Members) :
    (decode (.obj members)).rejection? = (members.lookup parametersField.service).bind
      fun parameters => (Parameter.decodeList parameters).rejection? := by
  have found : parametersField.find? members = (members.lookup parametersField.service).map
      fun value => (parametersField.service, value) := FieldName.find?_same _ _
  rw [decode, object, Outcome.rejection?_map, FieldName.rejection?_optional, found]
  cases members.lookup parametersField.service with
  | none => rfl
  | some parameters => rfl

namespace Query

/-- What stands in place of the parameters in the payload of a query. -/
def parameters? : Json → Option Json
  | .obj members =>
    match members.lookup optionsField.service with
    | some (.obj options) => options.lookup QueryOptions.parametersField.service
    | _ => none
  | _ => none

/-- **A query is rejected with its parameters, and only with them.** -/
theorem rejection?_decode (value : Json) :
    (decode value).rejection? =
      (parameters? value).bind fun parameters => (Parameter.decodeList parameters).rejection? := by
  cases value with
  | obj members =>
      have schedule := rejection?_nullable Schedule.rejection?_decode
      have options : (optionsField.optional ⟨[]⟩ QueryOptions.decodeOrNull members).rejection? =
          (parameters? (.obj members)).bind fun parameters =>
            (Parameter.decodeList parameters).rejection? := by
        have found : optionsField.find? members = (members.lookup optionsField.service).map
            fun value => (optionsField.service, value) := FieldName.find?_same _ _
        rw [FieldName.rejection?_optional, found, parameters?]
        cases members.lookup optionsField.service with
        | none => rfl
        | some options =>
            cases options with
            | obj inner => exact QueryOptions.rejection?_decode inner
            | null => exact QueryOptions.rejection?_decode []
            | _ => rfl
      simp [decode, object, options, schedule, rejection?_nullable rejection?_string,
        rejection?_listOrNull rejection?_string, rejection?_listOrNull rejection?_raw]
  | _ => rfl

theorem decode_eq_rejected_iff {value : Json} {rejection : Rejection} :
    decode value = .rejected rejection ↔
      ∃ parameters, parameters? value = some parameters ∧
        Parameter.decodeList parameters = .rejected rejection := by
  simp only [← Outcome.rejection?_eq_some_iff, rejection?_decode, Option.bind_eq_some_iff]

/-- The first parameter that is rejected is of an unknown type. -/
def HasUnknownType (value type : Json) : Prop :=
  ∃ earlier members later, parameters? value = some (.arr (earlier ++ .obj members :: later)) ∧
    (∀ item ∈ earlier, ∃ parameter, Parameter.decode item = .value parameter) ∧
    (members.lookup Parameter.typeField.service).getD .null = type ∧ type.isCompound = false ∧
    ∀ kind : ParameterKind, type ≠ .str kind.discriminant

theorem hasUnknownType_iff {value type : Json} :
    HasUnknownType value type ↔ decode value = .rejected (.unknownParameterType type) := by
  rw [decode_eq_rejected_iff]
  constructor
  · rintro ⟨earlier, members, later, given, accepted, typed, scalar, others⟩
    have here := Parameter.decode_eq_unknown_iff.2 ⟨members, rfl, typed, scalar, others⟩
    exact ⟨_, given, Parameter.decodeList_eq_rejected_iff.2 ⟨_, _, _, rfl, accepted, here⟩⟩
  · rintro ⟨parameters, given, rejected⟩
    cases parameters with
    | arr items =>
        obtain ⟨earlier, item, later, rfl, accepted, here⟩ :=
          Parameter.decodeList_eq_rejected_iff.1 rejected
        obtain ⟨members, rfl, typed, scalar, others⟩ := Parameter.decode_eq_unknown_iff.1 here
        exact ⟨earlier, members, later, given, accepted, typed, scalar, others⟩
    | obj members => cases members <;> cases rejected
    | str text =>
        rw [Parameter.decodeList] at rejected
        split at rejected <;> cases rejected
    | _ => cases rejected

/-- What stands in place of the parameters is not foreseen. -/
def Unforeseen (value : Json) : Prop :=
  ∃ parameters, parameters? value = some parameters ∧ Parameter.Unforeseen parameters

/-- **A query ends a run without an answer when its parameters are not foreseen.** -/
theorem unforeseen_iff {value : Json} :
    Unforeseen value ↔ ∃ rejection, decode value = .rejected rejection ∧
      (Refusal.ofRejection rejection).reported = false := by
  simp only [Unforeseen, Parameter.unforeseen_iff, decode_eq_rejected_iff]
  constructor
  · rintro ⟨parameters, given, rejection, rejected, unreported⟩
    exact ⟨rejection, ⟨parameters, given, rejected⟩, unreported⟩
  · rintro ⟨rejection, ⟨parameters, given, rejected⟩, unreported⟩
    exact ⟨parameters, given, rejection, rejected, unreported⟩

end Query

end DashboardExport
