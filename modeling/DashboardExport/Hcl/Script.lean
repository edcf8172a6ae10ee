import DashboardExport.Hcl.Item

/-!
# Scripts of configuration text

A script writes configuration text step by step, and a step may fail.  The failure leaves
every block and list that is open: what was written stays, the writer gets back the depth
it had, and nothing is closed.  The items of a text are scripts without failures, and these
write what the items write (`perform_stepsAll`).
-/

set_option autoImplicit false

namespace DashboardExport.Hcl

/-- Writing that a failure may end early. -/
abbrev Writing (ε : Type) : Type → Type := ExceptT ε (StateM Writer)

namespace Writing

variable {ε α β : Type}

/-- How writing ends, and the writer it leaves. -/
def perform (writing : Writing ε α) (w : Writer) : Except ε α × Writer := writing.run.run w

/-- Writes one level deeper.  The level is given up again however the writing inside ends. -/
def indented (inside : Writing ε Unit) : Writing ε Unit := do
  modify Writer.deeper
  try inside finally modify Writer.shallower

/-- Writes between two lines, one level deeper than these. -/
def enclosed (opening closing : String) (inside : Writing ε Unit) : Writing ε Unit := do
  modify (Writer.line opening)
  indented inside
  modify (Writer.line closing)

theorem perform_modify (operation : Writer → Writer) (w : Writer) :
    perform (modify operation : Writing ε Unit) w = (.ok (), operation w) := rfl

theorem perform_bind (first : Writing ε α) (next : α → Writing ε β) (w : Writer) :
    perform (first >>= next) w = match perform first w with
      | (.ok value, behind) => perform (next value) behind
      | (.error failure, behind) => (.error failure, behind) := by
  rw [perform, ExceptT.run_bind, StateT.run_bind]
  show _ = match (first.run.run w : Except ε α × Writer) with
    | (.ok value, behind) => _
    | (.error failure, behind) => _
  generalize first.run.run w = ending
  rcases ending with ⟨_ | _, _⟩ <;> rfl

/-- **The level is given up however the writing inside ends.** -/
theorem perform_indented (inside : Writing ε Unit) (w : Writer) :
    perform (indented inside) w =
      ((perform inside w.deeper).1, (perform inside w.deeper).2.shallower) := by
  show (indented inside).run.run w = ((inside w.deeper).1, (inside w.deeper).2.shallower)
  rw [indented, ExceptT.run_bind, StateT.run_bind]
  -- nothing is computed before it is known how the writing inside ends
  rcases ended : inside w.deeper with ⟨_ | _, _⟩
  all_goals
    show StateT.run (tryFinally inside (modify Writer.shallower)).run w.deeper = _
    simp only [tryFinally, tryFinally', ended, ExceptT.run, StateT.run, ExceptT.mk, bind,
      StateT.bind, pure, Functor.map, ExceptT.map]
    rfl

/-- **A failure between two lines leaves the first one alone.** -/
theorem perform_enclosed (opening closing : String) (inside : Writing ε Unit) (w : Writer) :
    perform (enclosed opening closing inside) w =
      match perform inside (w.line opening).deeper with
      | (.ok _, behind) => (.ok (), behind.shallower.line closing)
      | (.error failure, behind) => (.error failure, behind.shallower) := by
  rw [enclosed, perform_bind, perform_modify]
  dsimp only
  rw [perform_bind, perform_indented]
  rcases perform inside (w.line opening).deeper with ⟨_ | _, _⟩ <;> rfl

end Writing

/-! ## Steps -/

/-- A step of a script.  Assignments, here documents, lists and blocks are put together from these:
lists and blocks are steps between two lines, and what gives a list its values may have steps of its
own. -/
inductive Step (ε : Type) where
  | line (text : String)
  | verbatim (text : String)
  | enclosed (opening : String) (inside : List (Step ε)) (closing : String)
  | fail (failure : ε)

namespace Step

variable {ε : Type}

def assignment (key value : String) : Step ε := .line (key ++ " = " ++ Text.quoted value)

/-- A value in a list of strings. -/
def value (text : String) : Step ε := .line (Text.quoted text ++ ",")

/-- An assignment of a list of strings. -/
def strings (key : String) (inside : List (Step ε)) : Step ε :=
  .enclosed (key ++ " = [") inside "]"

/-- An assignment of a here document takes several steps. -/
def heredoc (key marker : String) (body : Option String) : List (Step ε) :=
  .line (key ++ " = <<" ++ marker) :: (body.toList ++ [marker]).map .verbatim

def block (header : String) (inside : List (Step ε)) : Step ε :=
  .enclosed (header ++ " \x7b") inside "\x7d"

mutual
/-- Does a step. -/
def run : Step ε → Writing ε Unit
  | .line text => modify (Writer.line text)
  | .verbatim text => modify (Writer.verbatim text)
  | .enclosed opening inside closing => Writing.enclosed opening closing (runAll inside)
  | .fail failure => throw failure

/-- Does steps one after the other. -/
def runAll : List (Step ε) → Writing ε Unit
  | [] => pure ()
  | step :: rest => do
    run step
    runAll rest
end

theorem runAll_append (left right : List (Step ε)) :
    runAll (left ++ right) = runAll left >>= fun _ => runAll right := by
  induction left with
  | nil => exact (pure_bind () fun _ => runAll right).symm
  | cons step rest ih => rw [List.cons_append, runAll, runAll, ih, bind_assoc]

end Step

/-! ## Items as scripts -/

namespace Item

variable {ε : Type}

open Step (runAll)
open Writing (perform perform_bind perform_enclosed)

mutual
/-- The steps that write an item. -/
def steps : Item → List (Step ε)
  | .line text => [.line text]
  | .verbatim text => [.verbatim text]
  | .assignment key value => [.assignment key value]
  | .strings key values => [.strings key (values.map Step.value)]
  | .heredoc key marker body => Step.heredoc key marker body
  | .block header items => [.block header (stepsAll items)]

/-- The steps that write items. -/
def stepsAll : List Item → List (Step ε)
  | [] => []
  | item :: rest => steps item ++ stepsAll rest
end

theorem perform_values (values : List String) (w : Writer) :
    perform (runAll (values.map Step.value) : Writing ε Unit) w =
      (.ok (), Writer.items values w) := by
  induction values generalizing w with
  | nil => rfl
  | cons value rest ih => exact ih (w.line (Text.quoted value ++ ","))

mutual
/-- **The steps of an item write what the item writes.** -/
theorem perform_steps : ∀ (item : Item) (w : Writer),
    perform (runAll item.steps : Writing ε Unit) w = (.ok (), item.write w)
  | .line _, _ => rfl
  | .verbatim _, _ => rfl
  | .assignment _ _, _ => rfl
  | .heredoc _ _ none, _ => rfl
  | .heredoc _ _ (some _), _ => rfl
  | .strings key values, w => by
      rw [steps, runAll, perform_bind, Step.strings, Step.run, perform_enclosed, perform_values]
      rfl
  | .block header items, w => by
      rw [steps, runAll, perform_bind, Step.block, Step.run, perform_enclosed,
        perform_stepsAll items]
      rfl

theorem perform_stepsAll : ∀ (items : List Item) (w : Writer),
    perform (runAll (stepsAll items) : Writing ε Unit) w = (.ok (), writeAll items w)
  | [], _ => rfl
  | item :: rest, w => by
      rw [stepsAll, Step.runAll_append, perform_bind, perform_steps item]
      exact perform_stepsAll rest (item.write w)
end

end Item

end DashboardExport.Hcl
