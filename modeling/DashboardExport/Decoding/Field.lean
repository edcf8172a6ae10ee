import DashboardExport.Decoding.Outcome
import DashboardExport.Decoding.Scalar

/-!
# Fields of objects

The vocabulary that the models are decoded with.  A field has two names, the one
the service uses and the one of this program; both are accepted, the service's
name first.  An issue carries the name that the payload uses, and the service's name
for a field that is missing.  An absent field takes its default without a check;
members that belong to no field are ignored.
-/

set_option autoImplicit false

namespace DashboardExport.Decoding

/-- The two names of a field. -/
structure FieldName where
  service : String
  own : String

/-- A field with one name only. -/
def FieldName.same (name : String) : FieldName := ⟨name, name⟩

/-- Which of a field's two names is used when an object is written out. -/
inductive Naming where
  | service
  | own
  deriving DecidableEq

/-- The name of a field under a naming. -/
def FieldName.under (field : FieldName) : Naming → String
  | .service => field.service
  | .own => field.own

/-- The members of an object. -/
abbrev Members := List (String × Json)

/-- The value of a field, by the service's name first, with the name it was found under. -/
def FieldName.find? (field : FieldName) (members : Members) : Option (String × Json) :=
  match members.lookup field.service with
  | some value => some (field.service, value)
  | none => (members.lookup field.own).map fun value => (field.own, value)

variable {α : Type}

/-- The service's name counts wherever both names are given. -/
theorem FieldName.find?_of_service {field : FieldName} {members : Members} {value : Json}
    (h : members.lookup field.service = some value) :
    field.find? members = some (field.service, value) := by
  simp [FieldName.find?, h]

/-! ## Decoders of values -/

def ofExcept : Except Fault α → Outcome α
  | .ok a => .value a
  | .error fault => .fault fault

def string : Json → Outcome String
  | .str s => .value s
  | _ => .fault .notString

/-- The id of a remote object: a text, or an integer, which is kept as its decimal text. -/
def remoteId : Json → Outcome String
  | .int n => .value (toString n)
  | value => string value

def integer (value : Json) : Outcome Int := ofExcept (Scalar.ofJson value).integer

def number (value : Json) : Outcome Binary64 := ofExcept (Scalar.ofJson value).number

def boolean (value : Json) : Outcome Bool := ofExcept (Scalar.ofJson value).boolean

/-- Any value, as it is. -/
def raw (value : Json) : Outcome Json := .value value

/-- A value or null. -/
def nullable (decode : Json → Outcome α) : Json → Outcome (Option α)
  | .null => .value none
  | value => (decode value).map some

/-- The items of a list from a position on. -/
def itemsFrom {β : Type} (decode : β → Outcome α) : Nat → List β → Outcome (List α)
  | _, [] => .value []
  | position, item :: rest =>
    (((decode item).under (.index position)).and (itemsFrom decode (position + 1) rest)).map
      fun pair => pair.1 :: pair.2

def list (decode : Json → Outcome α) : Json → Outcome (List α)
  | .arr items => itemsFrom decode 0 items
  | _ => .fault .notList

/-- A list, where null counts as the empty one. -/
def listOrNull (decode : Json → Outcome α) : Json → Outcome (List α)
  | .null => .value []
  | value => list decode value

/-- The entries of a dictionary. -/
def entries (decode : Json → Outcome α) : Members → Outcome (List (String × α))
  | [] => .value []
  | (key, value) :: rest =>
    (((decode value).under (.key key)).and (entries decode rest)).map
      fun pair => (key, pair.1) :: pair.2

def dictionary (decode : Json → Outcome α) : Json → Outcome (List (String × α))
  | .obj members => entries decode members
  | _ => .fault .notDictionary

/-- An object, decoded by its members. -/
def object (decode : Members → Outcome α) : Json → Outcome α
  | .obj members => decode members
  | _ => .fault .notObject

/-! ## Decoders of fields -/

/-- A field that has to be there. -/
def FieldName.required (field : FieldName) (decode : Json → Outcome α) (members : Members) :
    Outcome α :=
  match field.find? members with
  | some (name, value) => (decode value).under (.key name)
  | none => .invalid [⟨[.key field.service], .missing⟩]

/-- A field with a default, which is taken as it is. -/
def FieldName.optional (field : FieldName) (default : α) (decode : Json → Outcome α)
    (members : Members) : Outcome α :=
  match field.find? members with
  | some (name, value) => (decode value).under (.key name)
  | none => .value default

end DashboardExport.Decoding
