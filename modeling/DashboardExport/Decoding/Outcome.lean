import DashboardExport.Decoding.Issue

/-!
# Outcomes of decoding

Decoding gives a value, or all issues of the payload in the order of its fields,
or a rejection.  Outcomes are combined in that order: the first rejection wins
over everything, and the issues of all fields are collected otherwise
(`Outcome.and`).
-/

set_option autoImplicit false

namespace DashboardExport.Decoding

/-- The outcome of decoding a value. -/
inductive Outcome (α : Type) where
  | value (result : α)
  | invalid (issues : List Issue)
  | rejected (rejection : Rejection)

namespace Outcome

variable {α β γ : Type}

def map (f : α → β) : Outcome α → Outcome β
  | .value a => .value (f a)
  | .invalid issues => .invalid issues
  | .rejected rejection => .rejected rejection

/-- Both outcomes in order: a rejection ends at once, issues are collected. -/
def and : Outcome α → Outcome β → Outcome (α × β)
  | .rejected rejection, _ => .rejected rejection
  | _, .rejected rejection => .rejected rejection
  | .value a, .value b => .value (a, b)
  | .value _, .invalid issues => .invalid issues
  | .invalid issues, .value _ => .invalid issues
  | .invalid first, .invalid second => .invalid (first ++ second)

instance : Functor Outcome where
  map := map

instance : Applicative Outcome where
  pure := .value
  seq f x := (f.and (x ())).map fun pair => pair.1 pair.2

/-- The outcome seen from one step further out. -/
def under (step : Step) : Outcome α → Outcome α
  | .invalid issues => .invalid (issues.map (Issue.under step))
  | outcome => outcome

/-- A single fault at the value itself. -/
def fault (fault : Fault) : Outcome α := .invalid [⟨[], fault⟩]

@[simp] theorem map_value (f : α → β) (a : α) : (Outcome.value a).map f = .value (f a) := rfl

@[simp] theorem value_and_value (a : α) (b : β) :
    (Outcome.value a).and (Outcome.value b) = .value (a, b) := rfl

end Outcome

end DashboardExport.Decoding
