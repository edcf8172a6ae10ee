import DashboardExport.Binary64.Shortest
import DashboardExport.Json.Basic
import DashboardExport.Text.Quoted

/-!
# JSON values as text

Two layouts of the same text: on one line, and indented by two blanks a level with
every item and member on a line of its own.  An empty list or object is written
without a line end in both.  `sortKeys` orders the members of every object by
code points, at every depth.
-/

set_option autoImplicit false

namespace DashboardExport.Json

/-- The layout of numbers in JSON texts, which have words for the numbers that are not finite. -/
def numberLayout : Binary64.Layout :=
  { Binary64.messageLayout with infinity := "Infinity", notANumber := "NaN" }

/-- The text of a value that has no parts. -/
def scalarChars : Json → List Char
  | .bool true => ['t', 'r', 'u', 'e']
  | .bool false => ['f', 'a', 'l', 's', 'e']
  | .int n => (toString n).toList
  | .float x => (x.render numberLayout).toList
  | .str s => Text.quotedChars s.toList
  | _ => ['n', 'u', 'l', 'l']

/-- A line end and the indentation of a level. -/
def freshLine (level : Nat) : List Char :=
  '\n' :: List.replicate (2 * level) ' '

mutual
/-- The indented text of a value that stands at the given level. -/
def indented (level : Nat) : Json → List Char
  | .arr [] => ['[', ']']
  | .arr (item :: rest) =>
    '[' :: (freshLine (level + 1) ++ indented (level + 1) item ++
      indentedItems (level + 1) rest ++ freshLine level ++ [']'])
  | .obj [] => ['{', '}']
  | .obj ((key, value) :: rest) =>
    '{' :: (freshLine (level + 1) ++ Text.quotedChars key.toList ++ ':' :: ' ' ::
      indented (level + 1) value ++ indentedMembers (level + 1) rest ++ freshLine level ++ ['}'])
  | scalar => scalarChars scalar

def indentedItems (level : Nat) : List Json → List Char
  | [] => []
  | item :: rest =>
    ',' :: (freshLine level ++ indented level item ++ indentedItems level rest)

def indentedMembers (level : Nat) : List (String × Json) → List Char
  | [] => []
  | (key, value) :: rest =>
    ',' :: (freshLine level ++ Text.quotedChars key.toList ++ ':' :: ' ' ::
      indented level value ++ indentedMembers level rest)
end

mutual
/-- The text of a value on one line. -/
def inlineChars : Json → List Char
  | .arr [] => ['[', ']']
  | .arr (item :: rest) => '[' :: (inlineChars item ++ inlineItems rest ++ [']'])
  | .obj [] => ['{', '}']
  | .obj ((key, value) :: rest) =>
    '{' :: (Text.quotedChars key.toList ++ ':' :: ' ' :: inlineChars value ++
      inlineMembers rest ++ ['}'])
  | scalar => scalarChars scalar

def inlineItems : List Json → List Char
  | [] => []
  | item :: rest => ',' :: ' ' :: (inlineChars item ++ inlineItems rest)

def inlineMembers : List (String × Json) → List Char
  | [] => []
  | (key, value) :: rest =>
    ',' :: ' ' :: (Text.quotedChars key.toList ++ ':' :: ' ' :: inlineChars value ++
      inlineMembers rest)
end

/-- The indented text of a value. -/
def pretty (value : Json) : String := String.ofList (indented 0 value)

/-- The text of a value on one line. -/
def inline (value : Json) : String := String.ofList (inlineChars value)

/-! ## Sorted keys -/

/-- Inserts a member before the first one whose key is not smaller. -/
def insertMember (member : String × Json) : List (String × Json) → List (String × Json)
  | [] => [member]
  | other :: rest =>
    if other.1 < member.1 then other :: insertMember member rest else member :: other :: rest

mutual
/-- The value with the members of every object in order of their keys. -/
def sortKeys : Json → Json
  | .arr items => .arr (sortItems items)
  | .obj members => .obj (sortMembers members)
  | scalar => scalar

def sortItems : List Json → List Json
  | [] => []
  | item :: rest => sortKeys item :: sortItems rest

def sortMembers : List (String × Json) → List (String × Json)
  | [] => []
  | (key, value) :: rest => insertMember (key, sortKeys value) (sortMembers rest)
end

end DashboardExport.Json
