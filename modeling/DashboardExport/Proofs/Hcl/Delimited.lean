import DashboardExport.Proofs.Hcl.Lines
import DashboardExport.Proofs.Text.Delimited
import Mathlib.Data.List.Basic

/-!
# Delimited items

Values that are written as items can be told from the entries that follow them, at every
depth (`DelimitedItems`).  An assignment tells its text, a list of texts ends at its
bracket, and a block is delimited when the items in it are (`delimitedItems_block`).  So a
format that is put together from such items is read item by item (`DelimitedItems.peel`).
-/

set_option autoImplicit false

namespace DashboardExport.Hcl

open Text (Delimited Starts)

/-! ## Lines -/

namespace Writer

/-- **Indentation keeps lines apart.** -/
theorem lineEntry_injective (depth : Nat) : Function.Injective (lineEntry depth) := by
  have blank {text : String} (same : lineEntry depth text = "") : text = "" := by
    refine Decidable.byContradiction fun something => something ?_
    rw [lineEntry_of_ne_empty something, String.append_eq_empty_iff] at same
    exact same.2
  intro left right same
  by_cases first : left = ""
  · rw [first, lineEntry_empty] at same
    rw [first, blank same.symm]
  · by_cases second : right = ""
    · rw [second, lineEntry_empty] at same
      exact absurd (blank same) first
    · rw [lineEntry_of_ne_empty first, lineEntry_of_ne_empty second,
        String.append_right_inj] at same
      exact same

/-- A line ends as it does without its indentation. -/
theorem getLast?_lineEntry (depth : Nat) (text : String) :
    (lineEntry depth text).toList.getLast? = text.toList.getLast? := by
  by_cases empty : text = ""
  · rw [empty, lineEntry_empty]
  · have nonempty : text.toList ≠ [] := by simpa using empty
    rw [lineEntry_of_ne_empty empty, String.toList_append,
      List.getLast?_append_of_ne_nil _ nonempty]

end Writer

namespace Item

open Writer (lineEntry lineEntry_injective)

variable {α : Type}

/-! ## Items -/

/-- Values whose items show, at every depth, where they end. -/
def DelimitedItems (items : α → List Item) : Prop :=
  ∀ depth, Delimited fun x => added depth (items x)

theorem added_line (depth : Nat) (text : String) :
    added depth [.line text] = [lineEntry depth text] := rfl

/-- **The first value of a text is read off it**, and what follows it remains. -/
theorem DelimitedItems.peel {items : α → List Item} (first : DelimitedItems items) {depth : Nat}
    {x y : α} {others further : List Item} {rest more : List String}
    (same : added depth (items x ++ others) ++ rest = added depth (items y ++ further) ++ more) :
    x = y ∧ added depth others ++ rest = added depth further ++ more := by
  rw [added_append, added_append, List.append_assoc, List.append_assoc] at same
  exact first depth same

/-- Items that are the same whatever the values are say nothing. -/
theorem peel_same {depth : Nat} {items others further : List Item} {rest more : List String}
    (same : added depth (items ++ others) ++ rest = added depth (items ++ further) ++ more) :
    added depth others ++ rest = added depth further ++ more := by
  rw [added_append, added_append, List.append_assoc, List.append_assoc] at same
  exact List.append_cancel_left same

/-- **A list of values is read off a text** when what follows it does not start like another
value. -/
theorem DelimitedItems.peel_flatMap {items : α → List Item} (each : DelimitedItems items)
    {depth : Nat} {xs ys : List α} {others further : List Item} {rest more : List String}
    (ends : ¬ Starts (fun x => added depth (items x)) (added depth others ++ rest))
    (otherEnds : ¬ Starts (fun x => added depth (items x)) (added depth further ++ more))
    (same : added depth (xs.flatMap items ++ others) ++ rest =
      added depth (ys.flatMap items ++ further) ++ more) :
    xs = ys ∧ added depth others ++ rest = added depth further ++ more := by
  rw [added_append, added_append, List.append_assoc, List.append_assoc, added_flatMap,
    added_flatMap] at same
  exact (each depth).flatMap ends otherEnds same

/-! ## Kinds of items -/

theorem delimitedItems_line {text : α → String} (injective : Function.Injective text) :
    DelimitedItems fun x => [.line (text x)] := fun depth =>
  Text.delimited_singleton ((lineEntry_injective depth).comp injective)

/-- **An assignment tells its text.** -/
theorem delimitedItems_assignment (key : String) :
    DelimitedItems fun value => [.assignment key value] := fun depth =>
  Text.delimited_singleton fun left right same => by
    have lines := lineEntry_injective depth same
    rw [String.append_right_inj] at lines
    exact Text.quoted_injective lines

/-- **A list of texts ends at its bracket.** -/
theorem delimitedItems_strings (key : String) :
    DelimitedItems fun values => [.strings key values] := by
  intro depth xs ys rest more same
  have item : Delimited fun value : String =>
      [lineEntry (depth + 1) (Text.quoted value ++ ",")] :=
    Text.delimited_singleton fun left right same => by
      have lines := lineEntry_injective (depth + 1) same
      rw [String.append_left_inj] at lines
      exact Text.quoted_injective lines
  have ends (rest : List String) : ¬ Starts
      (fun value : String => [lineEntry (depth + 1) (Text.quoted value ++ ",")])
      (lineEntry depth "]" :: rest) := by
    rintro ⟨value, _, started⟩
    have last := congrArg (fun line => line.toList.getLast?) (List.cons.inj started).1
    simp only [Writer.getLast?_lineEntry, String.toList_append] at last
    rw [List.getLast?_append] at last
    cases last
  simp only [added_strings] at same
  have inside := (List.cons.inj same).2
  simp only [List.append_eq, List.append_assoc, List.singleton_append,
    List.map_eq_flatMap] at inside
  obtain ⟨values, later⟩ := item.flatMap (ends rest) (ends more) inside
  exact ⟨values, (List.cons.inj later).2⟩

/-- Blocks are delimited when their headers tell which of them have delimited items. -/
theorem delimitedItems_block_of {header : α → String} {items : α → List Item}
    (inside : ∀ {x y : α}, header x = header y → ∀ {depth : Nat} {rest more : List String},
      added depth (items x) ++ rest = added depth (items y) ++ more → x = y ∧ rest = more) :
    DelimitedItems fun x => [.block (header x) (items x)] := by
  intro depth x y rest more same
  simp only [added_block, added_line, List.cons_append, List.append_assoc] at same
  obtain ⟨headers, contents⟩ := List.cons.inj same
  have headers := lineEntry_injective depth headers
  rw [String.append_left_inj] at headers
  obtain ⟨here, later⟩ := inside headers contents
  exact ⟨here, (List.cons.inj later).2⟩

/-- **A block is delimited when the items in it are.** -/
theorem delimitedItems_block (header : String) {items : α → List Item}
    (inside : DelimitedItems items) : DelimitedItems fun x => [.block header (items x)] :=
  delimitedItems_block_of fun _ _ _ _ contents => inside _ contents

/-- A block starts with the line of its header. -/
theorem head?_added_block (depth : Nat) (header : String) (items rest : List Item)
    (behind : List String) :
    (added depth (.block header items :: rest) ++ behind).head? =
      some (lineEntry depth (header ++ " \x7b")) := by
  rw [added_cons, added_block]
  rfl

/-- What starts otherwise does not start with a block of a header. -/
theorem not_starts_block {depth : Nat} {header : String} {items others : α → List Item}
    {entries : List String}
    (other : entries.head? ≠ some (lineEntry depth (header ++ " \x7b"))) :
    ¬ Starts (fun x => added depth (.block header (items x) :: others x)) entries := by
  rintro ⟨x, rest, rfl⟩
  exact other (head?_added_block depth header (items x) (others x) rest)

end Item

end DashboardExport.Hcl
