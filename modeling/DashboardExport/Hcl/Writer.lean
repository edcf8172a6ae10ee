import DashboardExport.Text.Quoted

/-!
# Lines of configuration text

A writer collects the entries of a text.  Lines are indented by the number of
blocks that are open; verbatim entries, which hold the bodies of here documents
and their markers, never are.  An entry may itself hold line ends.
-/

set_option autoImplicit false

namespace DashboardExport.Hcl

/-- The entries written so far and the number of open blocks. -/
structure Writer where
  entries : List String
  depth : Nat
  deriving DecidableEq

namespace Writer

/-- A writer that has written nothing. -/
def empty : Writer := ⟨[], 0⟩

/-- The blanks before a line at a depth. -/
def indentation (depth : Nat) : String := String.ofList (List.replicate (2 * depth) ' ')

/-- Adds an entry exactly as given. -/
def verbatim (text : String) (w : Writer) : Writer :=
  { w with entries := w.entries ++ [text] }

/-- Adds a line, indented unless it is empty. -/
def line (text : String) (w : Writer) : Writer :=
  w.verbatim (if text.isEmpty then "" else indentation w.depth ++ text)

/-- Indents what follows by one more level. -/
def deeper (w : Writer) : Writer := { w with depth := w.depth + 1 }

/-- Indents what follows by one level less. -/
def shallower (w : Writer) : Writer := { w with depth := w.depth - 1 }

/-- An assignment of a string. -/
def assignment (key value : String) (w : Writer) : Writer :=
  w.line (key ++ " = " ++ Text.quoted value)

/-- The items of a list of strings, a line each. -/
def items : List String → Writer → Writer
  | [], w => w
  | value :: rest, w => items rest (w.line (Text.quoted value ++ ","))

/-- An assignment of a list of strings. -/
def strings (key : String) (values : List String) (w : Writer) : Writer :=
  (items values (w.line (key ++ " = [")).deeper).shallower.line "]"

/-- An assignment of a here document; without a body the marker follows at once. -/
def heredoc (key marker : String) (body : Option String) (w : Writer) : Writer :=
  let opened := w.line (key ++ " = <<" ++ marker)
  let filled := match body with
    | some text => opened.verbatim text
    | none => opened
  filled.verbatim marker

/-- Opens a block. -/
def openBlock (header : String) (w : Writer) : Writer :=
  (w.line (header ++ " \x7b")).deeper

/-- Closes the innermost block. -/
def closeBlock (w : Writer) : Writer := w.shallower.line "\x7d"

/-- The text written so far: every entry ends a line. -/
def text (w : Writer) : String := "\n".intercalate w.entries ++ "\n"

@[simp] theorem entries_verbatim (text : String) (w : Writer) :
    (w.verbatim text).entries = w.entries ++ [text] := rfl

@[simp] theorem depth_verbatim (text : String) (w : Writer) :
    (w.verbatim text).depth = w.depth := rfl

@[simp] theorem depth_line (text : String) (w : Writer) : (w.line text).depth = w.depth := rfl

theorem depth_items (values : List String) (w : Writer) : (items values w).depth = w.depth := by
  induction values generalizing w with
  | nil => rfl
  | cons value rest ih => rw [items, ih, depth_line]

/-- Writing a list leaves the depth as it was. -/
@[simp] theorem depth_strings (key : String) (values : List String) (w : Writer) :
    (w.strings key values).depth = w.depth := by
  simp [strings, shallower, deeper, depth_items]

end Writer

end DashboardExport.Hcl
