import DashboardExport.Binary64.Shortest
import DashboardExport.Json.Basic
import DashboardExport.Text.Literal

/-!
# JSON values in messages

How a message shows a value of any kind: texts between marks, numbers in the
message layout, lists and objects with their parts separated by a comma and a
space.  The values of a multi-valued parameter are texts of this form too, except
that there a text stands for itself (`Json.plain`).
-/

set_option autoImplicit false

namespace DashboardExport.Json

mutual
/-- A value as messages show it. -/
def literal : Json → String
  | .null => "None"
  | .bool true => "True"
  | .bool false => "False"
  | .int n => toString n
  | .float x => x.render Binary64.messageLayout
  | .str s => Text.literal s
  | .arr items => "[" ++ ", ".intercalate (literalItems items) ++ "]"
  | .obj members => "\x7b" ++ ", ".intercalate (literalMembers members) ++ "\x7d"

def literalItems : List Json → List String
  | [] => []
  | item :: rest => literal item :: literalItems rest

def literalMembers : List (String × Json) → List String
  | [] => []
  | (key, value) :: rest => (Text.literal key ++ ": " ++ literal value) :: literalMembers rest
end

/-- A value as plain text: a text is itself, any other value is as messages show it. -/
def plain : Json → String
  | .str s => s
  | value => literal value

end DashboardExport.Json
