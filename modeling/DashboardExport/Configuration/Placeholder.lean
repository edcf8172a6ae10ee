import DashboardExport.Configuration.Problem
import DashboardExport.Text.Word

/-!
# Placeholders

A setting can name variables of the environment: a dollar sign and the name in
braces stand for the variable's value.  A text is gone through once from left to
right, and the values that are put in are not looked at again.  A variable that is
not set, or set to nothing, is a problem.
-/

set_option autoImplicit false

namespace DashboardExport.Configuration

/-- The variables of an environment. -/
abbrev Variables := List (String × String)

/-- The value of a variable that is set and not empty. -/
def setVariable (environment : Variables) (name : String) : Option String :=
  (environment.lookup name).filter fun value => !value.isEmpty

/-- The name in a placeholder that a text begins with, and the text after the placeholder. -/
def placeholder? : List Char → Option (List Char × List Char)
  | '$' :: '{' :: rest =>
    let name := rest.takeWhile Text.isWord
    match name, rest.dropWhile Text.isWord with
    | _ :: _, '}' :: after => some (name, after)
    | _, _ => none
  | _ => none

/-- What follows a placeholder is shorter. -/
theorem length_of_placeholder? {chars name after : List Char}
    (h : placeholder? chars = some (name, after)) : after.length < chars.length := by
  unfold placeholder? at h
  split at h
  · rename_i rest
    dsimp only at h
    split at h
    · rename_i c more after' _ dropped
      simp only [Option.some.injEq, Prod.mk.injEq] at h
      obtain ⟨-, rfl⟩ := h
      have shorter := (List.dropWhile_suffix Text.isWord (l := rest)).length_le
      rw [dropped] at shorter
      simp only [List.length_cons] at shorter ⊢
      omega
    · simp at h
  · simp at h

/-- The characters of a text with the values of variables in place of placeholders.  The value is
put in front of what the characters behind the placeholder come to. -/
def expandChars (environment : Variables) (chars : List Char) : Except Problem (List Char) :=
  match h : placeholder? chars with
  | some (name, after) =>
    have := length_of_placeholder? h
    match setVariable environment (String.ofList name) with
    | none => .error (.unsetVariable (String.ofList name))
    | some value => (expandChars environment after).map (value.toList ++ ·)
  | none =>
    match chars with
    | [] => .ok []
    | c :: rest => (expandChars environment rest).map (c :: ·)
termination_by chars.length
decreasing_by
  · assumption
  · simp

/-- A whole setting with its placeholders filled in, or the first variable that is not set. -/
def expand (environment : Variables) (text : String) : Except Problem String :=
  (expandChars environment text.toList).map String.ofList

end DashboardExport.Configuration
