import DashboardExport.Proofs.Json.Strings

/-!
# Delimited codes

A code writes a value as a list.  It is delimited when whatever begins with the code of a
value begins with the code of no other, and what follows the code is determined
(`Delimited`).  The code of a value shows its own end then, so codes can be written one
after the other.  A list of values can be told from what follows it as long as that does
not start like another value (`Delimited.flatMap`).

A text in quotation marks is delimited, whatever the text is and whatever follows it
(`delimited_quotedChars`).
-/

set_option autoImplicit false

namespace DashboardExport.Text

variable {α β : Type}

/-! ## Codes -/

/-- A code whose values can be told from what follows them. -/
def Delimited (code : α → List β) : Prop :=
  ∀ ⦃x y : α⦄ ⦃rest more : List β⦄, code x ++ rest = code y ++ more → x = y ∧ rest = more

/-- A list that starts with the code of a value. -/
def Starts (code : α → List β) (list : List β) : Prop := ∃ x rest, list = code x ++ rest

/-- A code of one item is delimited when the item tells the value. -/
theorem delimited_singleton {item : α → β} (injective : Function.Injective item) :
    Delimited fun x => [item x] := by
  intro x y rest more same
  obtain ⟨here, later⟩ := List.cons.inj same
  exact ⟨injective here, later⟩

namespace Delimited

variable {code : α → List β}

/-- Different values have different codes. -/
theorem injective (delimited : Delimited code) : Function.Injective code := by
  intro x y same
  have ended : code x ++ [] = code y ++ [] := congrArg (· ++ []) same
  exact (delimited ended).1

/-- **Values that are written one after the other are told apart**, and from what follows them,
when that does not start like another value. -/
theorem flatMap (delimited : Delimited code) {xs ys : List α} {rest more : List β}
    (ends : ¬ Starts code rest) (otherEnds : ¬ Starts code more)
    (same : xs.flatMap code ++ rest = ys.flatMap code ++ more) : xs = ys ∧ rest = more := by
  induction xs generalizing ys with
  | nil =>
      cases ys with
      | nil => exact ⟨rfl, same⟩
      | cons y ys =>
          rw [List.flatMap_cons, List.append_assoc] at same
          exact absurd ⟨y, _, same⟩ ends
  | cons x xs ih =>
      cases ys with
      | nil =>
          rw [List.flatMap_cons, List.append_assoc] at same
          exact absurd ⟨x, _, same.symm⟩ otherEnds
      | cons y ys =>
          rw [List.flatMap_cons, List.flatMap_cons, List.append_assoc, List.append_assoc] at same
          obtain ⟨first, later⟩ := delimited same
          obtain ⟨others, left⟩ := ih later
          exact ⟨by rw [first, others], left⟩

end Delimited

/-! ## Quoted texts -/

/-- **A quoted text shows where it ends.** -/
theorem delimited_quotedChars : Delimited quotedChars := by
  intro x y rest more same
  have inside := (List.cons.inj same).2
  rw [List.append_eq, List.append_eq, List.append_assoc, List.append_assoc] at inside
  have read := Json.readChars_quoted x rest
  rw [← List.singleton_append, inside, List.singleton_append, Json.readChars_quoted] at read
  cases read
  exact ⟨rfl, rfl⟩

theorem quoted_injective : Function.Injective quoted := by
  intro left right same
  have chars := congrArg String.toList same
  rw [quoted, quoted, String.toList_ofList, String.toList_ofList] at chars
  exact String.toList_inj.1 (delimited_quotedChars.injective chars)

end DashboardExport.Text
