import DashboardExport.Hcl.Writer

/-!
# Items of configuration text

The structure of a configuration file: lines, assignments, here documents, and
blocks that hold further items.  Writing an item drives a `Writer`; a block is
closed at the indentation it was opened with (`depth_write`).
-/

set_option autoImplicit false

namespace DashboardExport.Hcl

inductive Item where
  | line (text : String)
  | verbatim (text : String)
  | assignment (key value : String)
  | strings (key : String) (values : List String)
  | heredoc (key marker : String) (body : Option String)
  | block (header : String) (items : List Item)

namespace Item

/-- An empty line. -/
def gap : Item := .line ""

mutual
/-- Writes an item. -/
def write : Item → Writer → Writer
  | .line text, w => w.line text
  | .verbatim text, w => w.verbatim text
  | .assignment key value, w => w.assignment key value
  | .strings key values, w => w.strings key values
  | .heredoc key marker body, w => w.heredoc key marker body
  | .block header items, w => (writeAll items (w.openBlock header)).closeBlock

/-- Writes items one after the other. -/
def writeAll : List Item → Writer → Writer
  | [], w => w
  | item :: rest, w => writeAll rest (write item w)
end

/-- The text of items on their own. -/
def render (items : List Item) : String := (writeAll items Writer.empty).text

mutual
/-- **Writing an item leaves the depth as it was.** -/
theorem depth_write : ∀ (item : Item) (w : Writer), (item.write w).depth = w.depth
  | .line _, _ => rfl
  | .verbatim _, _ => rfl
  | .assignment _ _, _ => rfl
  | .strings key values, w => by rw [write]; exact Writer.depth_strings key values w
  | .heredoc _ _ none, _ => rfl
  | .heredoc _ _ (some _), _ => rfl
  | .block header items, w => by
      rw [write]
      show (writeAll items (w.openBlock header)).depth - 1 = w.depth
      rw [depth_writeAll items (w.openBlock header)]
      rfl

theorem depth_writeAll : ∀ (items : List Item) (w : Writer), (writeAll items w).depth = w.depth
  | [], _ => rfl
  | item :: rest, w => by rw [writeAll, depth_writeAll rest, depth_write item]
end

end Item

end DashboardExport.Hcl
