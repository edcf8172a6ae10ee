import DashboardExport.Json.Basic

/-!
# What can be wrong with a payload

A payload that does not fit its model has one issue for every field that does not
fit, each with the path from the payload to the value in question.  A few faults
end the decoding of the whole payload at once instead; they are the constructors
of `Rejection`.
-/

set_option autoImplicit false

namespace DashboardExport.Decoding

/-- One step into a value: to a member of an object or to an item of a list. -/
inductive Step where
  | key (name : String)
  | index (position : Nat)
  deriving DecidableEq

/-- Why a value does not fit its field. -/
inductive Fault where
  | missing
  | notObject
  | notString
  /-- Bytes that encode no text. -/
  | notUnicode
  | notList
  | notDictionary
  | notInteger
  | integerSyntax
  | integerSize
  | fractionalInteger
  | notFinite
  | notNumber
  | numberSyntax
  | notBoolean
  | booleanSyntax
  | notPath
  /-- A rule on the object as a whole is broken. -/
  | ruleBroken (reason : String)
  deriving DecidableEq

/-- A fault with the path to it. -/
structure Issue where
  path : List Step
  fault : Fault
  deriving DecidableEq

/-- The same issue, seen from one step further out. -/
def Issue.under (step : Step) (issue : Issue) : Issue :=
  { issue with path := step :: issue.path }

/-- A fault that ends decoding at once. -/
inductive Rejection where
  /-- A value of the named kind stands where a sequence of parameters is needed. -/
  | notIterable (kind : String)
  /-- A value of the named kind cannot be looked up among the parameter types. -/
  | unusableDiscriminant (kind : String)
  /-- A query parameter is a value of the named kind. -/
  | parameterNotObject (kind : String)
  | unknownParameterType (discriminant : Json)
  /-- A parameter of a known type has fields that do not fit. -/
  | invalidParameter (discriminant : String) (name : Json) (issues : List Issue)
  deriving DecidableEq

end DashboardExport.Decoding
