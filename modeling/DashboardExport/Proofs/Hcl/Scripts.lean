import DashboardExport.Hcl.Script
import DashboardExport.Proofs.Hcl.Lines

/-!
# Scripts at a depth

What a script writes is the same at every depth, up to the blanks before its lines
(`writes_runAll`): a text that is written as it is stays as it is, and so does an empty line.
The writer gets back the depth it had.

A script fails where one of its steps does, inside of any number of blocks and lists
(`exists_failsAt`).  What it wrote then ends with what stands before that step: the blocks and
lists have their first lines, and none has its last (`perform_within`).
-/

set_option autoImplicit false

namespace DashboardExport.Hcl

namespace Writer

theorem indentation_append (outer inner : Nat) :
    indentation outer ++ indentation inner = indentation (outer + inner) := by
  rw [indentation, indentation, indentation, ← String.ofList_append,
    List.replicate_append_replicate, Nat.mul_add]

/-- A line that is indented twice is as deep as the two depths together. -/
theorem lineEntry_lineEntry (outer inner : Nat) (text : String) :
    lineEntry outer (lineEntry inner text) = lineEntry (outer + inner) text := by
  by_cases empty : text = ""
  · rw [empty, lineEntry_empty, lineEntry_empty, lineEntry_empty]
  · rw [lineEntry_of_ne_empty empty, lineEntry_append outer _ empty, indentation_append,
      lineEntry_of_ne_empty empty]

end Writer

/-! ## Pieces -/

/-- An entry as it is at depth 0, with where it comes from. -/
inductive Piece where
  | line (text : String)
  | verbatim (text : String)

namespace Piece

def entry : Piece → String
  | .line text => text
  | .verbatim text => text

/-- The piece at a depth: a line has the blanks of the depth before it, unless it is empty, and a
text that is written as it is has none. -/
def indented (depth : Nat) : Piece → Piece
  | .line text => .line (Writer.lineEntry depth text)
  | .verbatim text => .verbatim text

theorem indented_zero (piece : Piece) : piece.indented 0 = piece := by
  cases piece with
  | line text => rw [indented, Writer.lineEntry_zero]
  | verbatim text => rfl

theorem indented_indented (outer inner : Nat) (piece : Piece) :
    (piece.indented inner).indented outer = piece.indented (outer + inner) := by
  cases piece with
  | line text => rw [indented, indented, Writer.lineEntry_lineEntry, indented]
  | verbatim text => rfl

end Piece

variable {ε : Type}

open Writing (perform perform_bind perform_enclosed)

/-- What comes later, unless a failure came before. -/
def unlessFailed {α : Type} : Except ε Unit → List α → List α
  | .ok _, later => later
  | .error _, _ => []

/-! ## Writing the same at every depth -/

/-- Writing that adds pieces, indented by the depth, gives the depth back and ends with a result. -/
def Writes (writing : Writing ε Unit) (pieces : List Piece) (result : Except ε Unit) : Prop :=
  ∀ w : Writer, perform writing w =
    (result, ⟨w.entries ++ pieces.map fun piece => (piece.indented w.depth).entry, w.depth⟩)

theorem writes_line (text : String) :
    Writes (modify (Writer.line text) : Writing ε Unit) [.line text] (.ok ()) := fun _ => rfl

theorem writes_verbatim (text : String) :
    Writes (modify (Writer.verbatim text) : Writing ε Unit) [.verbatim text] (.ok ()) :=
  fun _ => rfl

theorem writes_pure : Writes (pure () : Writing ε Unit) [] (.ok ()) := by
  intro w
  rw [List.map_nil, List.append_nil]
  rfl

theorem writes_throw (failure : ε) : Writes (throw failure) [] (.error failure) := by
  intro w
  rw [List.map_nil, List.append_nil]
  rfl

section Writing

variable {first second : Writing ε Unit} {earlier later : List Piece} {begun ended : Except ε Unit}

/-- **Writing one after the other adds the pieces of both**, and those of the first alone if this
one fails. -/
theorem Writes.bind (begins : Writes first earlier begun) (goesOn : Writes second later ended) :
    Writes (first >>= fun _ => second) (earlier ++ unlessFailed begun later)
      (begun >>= fun _ => ended) := by
  intro w
  rw [perform_bind, begins w]
  cases begun with
  | error failure => rw [unlessFailed, List.append_nil]; rfl
  | ok _ =>
      dsimp only
      rw [goesOn, List.append_assoc, unlessFailed, List.map_append]
      rfl

/-- **What is written between two lines is one level deeper than these.** -/
theorem Writes.enclosed (inside : Writes first earlier begun) (opening closing : String) :
    Writes (Writing.enclosed opening closing first)
      (.line opening :: (earlier.map (Piece.indented 1) ++ unlessFailed begun [.line closing]))
      begun := by
  intro w
  have deeper (piece : Piece) : ((piece.indented 1).indented w.depth).entry =
      (piece.indented (w.depth + 1)).entry := by rw [Piece.indented_indented]
  rw [perform_enclosed, inside, List.map_cons, List.map_append, List.map_map]
  simp only [Function.comp_def, deeper]
  cases begun with
  | error failure =>
      simp only [unlessFailed, List.map_nil, List.append_nil]
      exact congrArg (fun entries => (Except.error failure, Writer.mk entries w.depth))
        (List.append_assoc _ _ _)
  | ok _ =>
      refine congrArg (fun entries => (Except.ok (), Writer.mk entries w.depth)) ?_
      exact (List.append_assoc _ _ _).trans (List.append_assoc _ _ _)

end Writing

namespace Step

mutual
/-- How a step ends: with the first failure that is reached in it, if there is one. -/
def outcome : Step ε → Except ε Unit
  | .line _ => .ok ()
  | .verbatim _ => .ok ()
  | .enclosed _ inside _ => outcomeAll inside
  | .fail failure => .error failure

/-- How steps end. -/
def outcomeAll : List (Step ε) → Except ε Unit
  | [] => .ok ()
  | step :: rest => outcome step >>= fun _ => outcomeAll rest
end

mutual
/-- The pieces that a step adds.  What is between two lines is one level deeper, and the second line
is there unless a failure comes before it. -/
def pieces : Step ε → List Piece
  | .line text => [.line text]
  | .verbatim text => [.verbatim text]
  | .enclosed opening inside closing =>
    .line opening :: ((piecesAll inside).map (Piece.indented 1) ++
      unlessFailed (outcomeAll inside) [.line closing])
  | .fail _ => []

/-- The pieces that steps add, up to the first failure. -/
def piecesAll : List (Step ε) → List Piece
  | [] => []
  | step :: rest => pieces step ++ unlessFailed (outcome step) (piecesAll rest)
end

mutual
/-- **A step writes its pieces at every depth.** -/
theorem writes_run : ∀ step : Step ε, Writes step.run step.pieces step.outcome
  | .line text => writes_line text
  | .verbatim text => writes_verbatim text
  | .enclosed opening inside closing => (writes_runAll inside).enclosed opening closing
  | .fail failure => writes_throw failure

theorem writes_runAll : ∀ steps : List (Step ε),
    Writes (runAll steps) (piecesAll steps) (outcomeAll steps)
  | [] => writes_pure
  | step :: rest => (writes_run step).bind (writes_runAll rest)
end

/-- The entries that steps add at a depth. -/
def added (depth : Nat) (steps : List (Step ε)) : List String :=
  (perform (runAll steps) ⟨[], depth⟩).2.entries

theorem added_eq (depth : Nat) (steps : List (Step ε)) :
    added depth steps = (piecesAll steps).map fun piece => (piece.indented depth).entry := by
  rw [added, writes_runAll]
  rfl

/-- **Steps add entries and give the depth back**, whether they fail or not. -/
theorem perform_runAll (steps : List (Step ε)) (w : Writer) :
    perform (runAll steps) w =
      (outcomeAll steps, ⟨w.entries ++ added w.depth steps, w.depth⟩) := by
  rw [added_eq, writes_runAll]

/-- **The first and the last line of a block are at its depth, and what is inside is one level
deeper.** -/
theorem added_enclosed (depth : Nat) (opening closing : String) (inside : List (Step ε)) :
    added depth [.enclosed opening inside closing] = Writer.lineEntry depth opening ::
      (added (depth + 1) inside ++
        unlessFailed (outcomeAll inside) [Writer.lineEntry depth closing]) := by
  rw [added, runAll, perform_bind, run, perform_enclosed, perform_runAll]
  cases outcomeAll inside with
  | error _ => exact congrArg (_ :: ·) (List.append_nil _).symm
  | ok _ => rfl

/-! ## Failures inside of blocks and lists -/

/-- Steps that no failure ends. -/
def Completes (steps : List (Step ε)) : Prop := ∀ w, (perform (runAll steps) w).1 = .ok ()

theorem completes_iff {steps : List (Step ε)} : Completes steps ↔ outcomeAll steps = .ok () := by
  simp only [Completes, perform_runAll]
  exact ⟨fun completes => completes Writer.empty, fun completes _ => completes⟩

/-- A block or a list with the steps that come before it and after it. -/
structure Enclosure (ε : Type) where
  before : List (Step ε)
  opening : String
  closing : String
  after : List (Step ε)
  completes : Completes before

/-- Steps inside of blocks and lists, the outermost of these first. -/
def within : List (Enclosure ε) → List (Step ε) → List (Step ε)
  | [], steps => steps
  | outer :: rest, steps =>
    outer.before ++ .enclosed outer.opening (within rest steps) outer.closing :: outer.after

/-- The entries from the start up to what is inside of blocks and lists: of each the steps before it
and its first line. -/
def openedAt : Nat → List (Enclosure ε) → List String
  | _, [] => []
  | depth, outer :: rest =>
    added depth outer.before ++ Writer.lineEntry depth outer.opening :: openedAt (depth + 1) rest

theorem perform_append {before : List (Step ε)} (completes : Completes before)
    (steps : List (Step ε)) (w : Writer) :
    perform (runAll (before ++ steps)) w =
      perform (runAll steps) ⟨w.entries ++ added w.depth before, w.depth⟩ := by
  rw [runAll_append, perform_bind, perform_runAll, completes_iff.1 completes]

/-- **A failure inside of blocks and lists leaves them all.**  The writer gets back its depth, and
nothing is added behind what stands before the failure. -/
theorem perform_within (enclosures : List (Enclosure ε)) {before : List (Step ε)}
    (completes : Completes before) (failure : ε) (after : List (Step ε)) (w : Writer) :
    perform (runAll (within enclosures (before ++ .fail failure :: after))) w =
      (.error failure, ⟨w.entries ++ (openedAt w.depth enclosures ++
        added (w.depth + enclosures.length) before), w.depth⟩) := by
  induction enclosures generalizing w with
  | nil =>
      rw [within, perform_append completes]
      rfl
  | cons outer rest ih =>
      rw [within, perform_append outer.completes, runAll, perform_bind, run, perform_enclosed, ih]
      refine congrArg (fun entries => (Except.error failure, Writer.mk entries w.depth)) ?_
      have depths : w.depth + 1 + rest.length = w.depth + (outer :: rest).length := by
        rw [List.length_cons, Nat.add_assoc, Nat.add_comm 1]
      show w.entries ++ added w.depth outer.before ++ [Writer.lineEntry w.depth outer.opening] ++
        (openedAt (w.depth + 1) rest ++ added (w.depth + 1 + rest.length) before) = _
      rw [depths, openedAt]
      simp only [List.append_assoc, List.cons_append, List.nil_append]

example : perform (runAll [.block "a" [.strings "k" [.value "v", .fail 404]], .line "b"])
    Writer.empty = (.error 404, ⟨["a \x7b", "  k = [", "    \"v\","], 0⟩) := rfl

/-- Where steps fail: behind steps that complete, inside of blocks and lists. -/
structure FailsAt (steps : List (Step ε)) (failure : ε) (enclosures : List (Enclosure ε))
    (before : List (Step ε)) : Prop where
  completes : Completes before
  place : ∃ after, steps = within enclosures (before ++ .fail failure :: after)

section FailsAt

variable {failure : ε}

/-- Steps that complete can stand before steps that fail. -/
theorem FailsAt.cons {step : Step ε} (completes : step.outcome = .ok ())
    {steps before : List (Step ε)} {enclosures : List (Enclosure ε)}
    (fails : FailsAt steps failure enclosures before) :
    ∃ enclosures before, FailsAt (step :: steps) failure enclosures before := by
  have longer {others : List (Step ε)} (completesOthers : Completes others) :
      Completes (step :: others) := by
    rw [completes_iff] at completesOthers ⊢
    rw [outcomeAll, completes]
    exact completesOthers
  obtain ⟨completesBefore, after, same⟩ := fails
  -- the step joins those before the outermost block or list, if there is one
  cases enclosures with
  | nil => exact ⟨[], step :: before, longer completesBefore, after, congrArg (step :: ·) same⟩
  | cons outer rest =>
      exact ⟨{ outer with before := step :: outer.before, completes := longer outer.completes } ::
        rest, before, completesBefore, after, congrArg (step :: ·) same⟩

mutual
/-- Steps of which the first fails do so in this one. -/
theorem exists_failsAt_of_step : ∀ (step : Step ε) (rest : List (Step ε)),
    step.outcome = .error failure →
      ∃ enclosures before, FailsAt (step :: rest) failure enclosures before
  | .fail _, rest, failed => by
      cases failed
      exact ⟨[], [], completes_iff.2 rfl, rest, rfl⟩
  | .enclosed opening inside closing, rest, failed => by
      obtain ⟨enclosures, before, completes, after, same⟩ := exists_failsAt inside failed
      exact ⟨⟨[], opening, closing, rest, completes_iff.2 rfl⟩ :: enclosures, before, completes,
        after, congrArg (fun steps => Step.enclosed opening steps closing :: rest) same⟩

/-- **Steps that fail do so at one step inside of blocks and lists.** -/
theorem exists_failsAt : ∀ steps : List (Step ε), outcomeAll steps = .error failure →
    ∃ enclosures before, FailsAt steps failure enclosures before
  | step :: rest, failed => by
      cases ended : step.outcome with
      | error other =>
          rw [outcomeAll, ended] at failed
          cases failed
          exact exists_failsAt_of_step step rest ended
      | ok _ =>
          rw [outcomeAll, ended] at failed
          obtain ⟨_, _, fails⟩ := exists_failsAt rest failed
          exact fails.cons ended
end

end FailsAt

/-- **A script at a depth.**  It ends as at depth 0 and gives the depth back, and it adds the same
entries, lines with the blanks of the depth before them.  The first and the last line of a block are
at one depth, and what is inside is one level deeper.  A script fails exactly where it has a step
that fails after steps that complete, inside of any number of blocks and lists; these have their
first lines then, and not their last.  Every list of items is a script. -/
theorem script_indented (steps : List (Step ε)) (w : Writer) :
    perform (runAll steps) w = ((perform (runAll steps) Writer.empty).1, ⟨w.entries ++
        (piecesAll steps).map fun piece => (piece.indented w.depth).entry, w.depth⟩) ∧
      added 0 steps = (piecesAll steps).map Piece.entry ∧
      (∀ opening closing, added w.depth [.enclosed opening steps closing] =
        Writer.lineEntry w.depth opening :: (added (w.depth + 1) steps ++
          unlessFailed (perform (runAll steps) w).1 [Writer.lineEntry w.depth closing])) ∧
      (∀ failure, (perform (runAll steps) w).1 = .error failure ↔
        ∃ enclosures before, FailsAt steps failure enclosures before ∧
          (perform (runAll steps) w).2 = ⟨w.entries ++ (openedAt w.depth enclosures ++
            added (w.depth + enclosures.length) before), w.depth⟩) ∧
      ∀ items, perform (runAll (Item.stepsAll items) : Writing ε Unit) w =
        (.ok (), Item.writeAll items w) := by
  refine ⟨?_, ?_, fun opening closing => ?_, fun failure => ⟨fun failed => ?_, ?_⟩, fun items => ?_⟩
  · rw [writes_runAll, writes_runAll]
  · simp only [added_eq, Piece.indented_zero]
  · rw [perform_runAll, added_enclosed]
  · rw [perform_runAll] at failed
    obtain ⟨enclosures, before, completes, after, rfl⟩ := exists_failsAt steps failed
    exact ⟨enclosures, before, ⟨completes, after, rfl⟩, by rw [perform_within _ completes]⟩
  · rintro ⟨enclosures, before, ⟨completes, after, rfl⟩, -⟩
    rw [perform_within _ completes]
  · exact Item.perform_stepsAll items w

end Step

end DashboardExport.Hcl
