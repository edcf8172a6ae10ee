import DashboardExport.Proofs.Hcl.Entries
import DashboardExport.Proofs.Text.Split
import DashboardExport.Rendering.Query

/-!
# Here documents in rendered texts

A rendered text has the lines of its entries, one entry after the other (`linesOf_text`).
A here document is read line by line up to the first line that is the marker once its
leading blanks are dropped.  When no line of the body is, that line is the one that was
written behind the body (`readBody_append`).
-/

set_option autoImplicit false

namespace DashboardExport.Rendering

open Hcl (Item Writer)

/-! ## Lines -/

theorem linesOf_append (left right : String) :
    linesOf (left ++ "\n" ++ right) = linesOf left ++ linesOf right := by
  have cut : Text.splitAtEvery (· == '\n') (left.toList ++ '\n' :: right.toList) =
      Text.splitAtEvery (· == '\n') left.toList ++ Text.splitAtEvery (· == '\n') right.toList :=
    Text.splitAtEvery_append_cut rfl left.toList right.toList
  rw [linesOf, String.toList_append, String.toList_append, List.append_assoc]
  exact (congrArg _ cut).trans List.map_append

/-- **Different texts have different lines.** -/
theorem linesOf_injective : Function.Injective linesOf := by
  intro left right same
  have parts := (List.map_inj_right fun _ _ => String.ofList_inj.1).1 same
  exact String.toList_inj.1 (Text.splitAtEvery_injective '\n' parts)

/-- **A text has the lines of its entries**, and an empty one behind its last line end. -/
theorem linesOf_text {w : Writer} (nonempty : w.entries ≠ []) :
    linesOf w.text = w.entries.flatMap linesOf ++ [""] := by
  have last : linesOf "" = [""] := rfl
  rw [Writer.text]
  generalize w.entries = entries at nonempty ⊢
  induction entries with
  | nil => exact absurd rfl nonempty
  | cons entry rest ih =>
      have ends := linesOf_append entry ""
      cases rest with
      | nil =>
          rw [String.append_empty, last] at ends
          rw [String.intercalate_singleton, ends, List.flatMap_singleton]
      | cons next rest =>
          have later := ih (List.cons_ne_nil next rest)
          rw [String.intercalate_cons_cons, String.append_assoc, linesOf_append, later,
            ← List.append_assoc]
          rfl

/-- **A rendered text has the lines of the entries that its items add.** -/
theorem linesOf_render_eq {items : List Item} (nonempty : Item.added 0 items ≠ []) :
    linesOf (Item.render items) = (Item.added 0 items).flatMap linesOf ++ [""] :=
  linesOf_text nonempty

/-! ## Here documents -/

/-- Whether a line ends a here document: it is the marker once its leading blanks are dropped. -/
def closes (marker line : String) : Bool := line.toList.dropWhile Text.isBlank == marker.toList

/-- Reads a here document from behind the line that opens it: the lines of its body, and those
behind the line that ends it. -/
def readBody (marker : String) : List String → Option (List String × List String)
  | [] => none
  | line :: rest =>
    if closes marker line then some ([], rest)
    else (readBody marker rest).map fun read => (line :: read.1, read.2)

/-- **A here document is read up to its marker** when no line of its body is the marker. -/
theorem readBody_append {marker : String} (ends : closes marker marker = true)
    {body : List String} (goesOn : ∀ line ∈ body, closes marker line = false)
    (after : List String) : readBody marker (body ++ marker :: after) = some (body, after) := by
  induction body with
  | nil => exact if_pos ends
  | cons line body ih =>
      rw [List.cons_append, readBody, goesOn line List.mem_cons_self, if_neg Bool.false_ne_true,
        ih fun later member => goesOn later (List.mem_cons_of_mem line member)]
      rfl

/-- **A here document is read to the end of its body only** when no line of the body is the
marker. -/
theorem readBody_append_iff {marker : String} (ends : closes marker marker = true)
    {body after : List String} :
    readBody marker (body ++ marker :: after) = some (body, after) ↔
      ∀ line ∈ body, closes marker line = false := by
  refine ⟨fun read => ?_, fun goesOn => readBody_append ends goesOn after⟩
  induction body with
  | nil => exact fun _ member => absurd member List.not_mem_nil
  | cons line body ih =>
      rw [List.cons_append, readBody] at read
      cases here : closes marker line with
      | true =>
          rw [here, if_pos rfl] at read
          cases read
      | false =>
          rw [here, if_neg Bool.false_ne_true, Option.map_eq_some_iff] at read
          obtain ⟨⟨lines, rest⟩, read, same⟩ := read
          cases same
          exact List.forall_mem_cons.2 ⟨here, ih read⟩

/-! ## Entries of a here document -/

/-- The lines that a here document carries: those of its text, and none if it has no text. -/
def bodyLines (body : Option String) : List String := body.toList.flatMap linesOf

theorem bodyLines_some (text : String) : bodyLines (some text) = linesOf text :=
  List.flatMap_singleton linesOf text

/-- The lines of a rendered here document: those before it, the one that opens it, those of its
body, its marker, and those behind it. -/
theorem linesOf_render {items : List Item} {opener marker : String} {body : Option String}
    {before after : List String}
    (entries : Item.added 0 items = before ++ opener :: (body.toList ++ marker :: after))
    (opens : linesOf opener = [opener]) (ends : linesOf marker = [marker]) :
    linesOf (Item.render items) = before.flatMap linesOf ++
      opener :: (bodyLines body ++ marker :: (after.flatMap linesOf ++ [""])) := by
  have nonempty : Item.added 0 items ≠ [] := by
    rw [entries]
    exact List.append_ne_nil_of_right_ne_nil before (List.cons_ne_nil _ _)
  rw [linesOf_render_eq nonempty, entries, bodyLines]
  simp only [List.flatMap_append, List.flatMap_cons, opens, ends, List.append_assoc,
    List.cons_append, List.nil_append]

/-- Somewhere among the lines of a rendered text stands the here document that was written. -/
theorem exists_lines_render {items : List Item} {opener body marker : String}
    {before after : List String}
    (entries : Item.added 0 items = before ++ opener :: body :: marker :: after)
    (opens : linesOf opener = [opener]) (ends : linesOf marker = [marker]) :
    ∃ earlier later,
      linesOf (Item.render items) = earlier ++ opener :: (linesOf body ++ marker :: later) := by
  rw [← bodyLines_some body]
  exact ⟨_, _, linesOf_render entries opens ends⟩

end DashboardExport.Rendering
