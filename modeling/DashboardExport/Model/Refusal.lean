import DashboardExport.Decoding.Outcome
import DashboardExport.Json.Literal

/-!
# Refused payloads

What the outcome of decoding means to the caller: a value, or the reason why the
payload is refused, with the words that say so.  Most reasons end an export in
good order; the two that no one decodes around (`reported` is false) end the
program.
-/

set_option autoImplicit false

namespace DashboardExport

open Decoding

/-- The two kinds of object that the service is asked for. -/
inductive RemoteKind where
  | dashboard
  | query
  deriving DecidableEq

/-- The word for one object of a kind. -/
def RemoteKind.noun : RemoteKind → String
  | .dashboard => "dashboard"
  | .query => "query"

/-- The word for the objects of a kind, which is also their place in the service. -/
def RemoteKind.plural : RemoteKind → String
  | .dashboard => "dashboards"
  | .query => "queries"

/-- What was to be decoded. -/
inductive Subject where
  /-- The service's answer for an object. -/
  | answer (kind : RemoteKind) (id : String)
  /-- A part of an answer that holds a value of the named model. -/
  | part (model : String)
  /-- A parameter with its discriminant and whatever stands for its name. -/
  | parameter (discriminant : String) (name : Json)
  deriving DecidableEq

/-- What is wrong with it. -/
inductive Defect where
  /-- Fields that do not fit. -/
  | fields (issues : List Issue)
  /-- The bytes are malformed in their encoding. -/
  | encoding
  /-- The text is not JSON. -/
  | syntactic
  deriving DecidableEq

/-- Why a payload is refused. -/
inductive Refusal where
  | undecodable (subject : Subject) (defect : Defect)
  | parameterNotObject (kind : String)
  | unknownParameterType (discriminant : Json)
  | parametersNotIterable (kind : String)
  | unusableDiscriminant (kind : String)
  deriving DecidableEq

def Subject.text : Subject → String
  | .answer kind id => kind.noun ++ " " ++ Text.literal id
  | .part model => model
  | .parameter discriminant name => discriminant ++ " parameter " ++ name.literal

namespace Refusal

/-- The words for a refusal.  What exactly is wrong with the fields is told by the defect. -/
def message : Refusal → String
  | .undecodable subject _ => "Cannot decode " ++ subject.text
  | .parameterNotObject kind => "Query parameter must be an object, got " ++ kind
  | .unknownParameterType discriminant =>
    "Unknown query parameter type: " ++ discriminant.literal
  | .parametersNotIterable kind => "'" ++ kind ++ "' object is not iterable"
  | .unusableDiscriminant kind => "unhashable type: '" ++ kind ++ "'"

/-- Whether a refusal ends an export in good order. -/
def reported : Refusal → Bool
  | .parametersNotIterable _ => false
  | .unusableDiscriminant _ => false
  | _ => true

/-- The refusal that a rejection amounts to. -/
def ofRejection : Rejection → Refusal
  | .notIterable kind => .parametersNotIterable kind
  | .unusableDiscriminant kind => .unusableDiscriminant kind
  | .parameterNotObject kind => .parameterNotObject kind
  | .unknownParameterType discriminant => .unknownParameterType discriminant
  | .invalidParameter discriminant name issues =>
    .undecodable (.parameter discriminant name) (.fields issues)

/-- The value of an outcome, or why there is none. -/
def ofOutcome {α : Type} (subject : Subject) : Outcome α → Except Refusal α
  | .value result => .ok result
  | .invalid issues => .error (.undecodable subject (.fields issues))
  | .rejected rejection => .error (ofRejection rejection)

theorem ofOutcome_eq_ok_iff {α : Type} {subject : Subject} {outcome : Outcome α} {result : α} :
    ofOutcome subject outcome = .ok result ↔ outcome = .value result := by
  cases outcome <;> simp [ofOutcome]

end Refusal

end DashboardExport
