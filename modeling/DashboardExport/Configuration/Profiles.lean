import DashboardExport.Storage.Path
import DashboardExport.Text.Blank
import DashboardExport.Text.Literal
import DashboardExport.Text.Lowercase

/-!
# Profile files

A profile file has a section for each workspace: a line with a name in brackets,
then options, each a name, an equals sign or a colon, and a value.  A line that is
indented more than the option before it continues the option's value, across empty
lines too.  Lines that start with `#` or `;` are comments.  Option names are lowered.

No name is used twice: sections, and options in their section, except that the
section `DEFAULT`, whose options hold in all sections, can be written in parts.
A line that is none of all this is a fault; all such lines are reported together.
-/

set_option autoImplicit false

namespace DashboardExport.Configuration

open DashboardExport.Text

/-- An option of a section with the lines of its value. -/
structure ProfileOption where
  sectionName : String
  name : String
  lines : List String
  deriving DecidableEq

/-- The sections of a profile file and their options. -/
structure Profiles where
  sections : List String
  options : List ProfileOption
  deriving DecidableEq

/-- Why a text is no profile file. -/
inductive ProfilesFault where
  /-- A line comes before the first section. -/
  | noSection (line : Nat) (text : String)
  | repeatedSection (name : String) (line : Nat)
  | repeatedOption (name sectionName : String) (line : Nat)
  /-- Lines that cannot be read, with their numbers. -/
  | badLines (lines : List (Nat × String))
  deriving DecidableEq

/-- A path as messages show it. -/
def pathLiteral (path : Storage.Path) : String := "PosixPath(" ++ literal path.text ++ ")"

/-- A line number as messages show it. -/
def lineNumber (line : Nat) : String :=
  "[line " ++ (if line < 10 then " " else "") ++ toString line ++ "]"

/-- The words for a fault in the file at a path. -/
def ProfilesFault.message (path : Storage.Path) : ProfilesFault → String
  | .noSection line text =>
    "File contains no section headers.\nfile: " ++ pathLiteral path ++ ", line: " ++
      toString line ++ "\n" ++ literal text
  | .repeatedSection name line =>
    "While reading from " ++ pathLiteral path ++ " " ++ lineNumber line ++ ": section " ++
      literal name ++ " already exists"
  | .repeatedOption name sectionName line =>
    "While reading from " ++ pathLiteral path ++ " " ++ lineNumber line ++ ": option " ++
      literal name ++ " in section " ++ literal sectionName ++ " already exists"
  | .badLines lines =>
    "Source contains parsing errors: " ++ pathLiteral path ++
      String.join (lines.map fun line => "\n\t" ++ lineNumber line.1 ++ ": " ++ literal line.2)

namespace Profiles

/-- The section whose options hold in all sections. -/
def defaultSection : String := "DEFAULT"

/-- What is known after some lines. -/
structure Draft where
  /-- The sections and options so far, the latest first. -/
  sections : List String
  options : List ProfileOption
  /-- The section that the next option belongs to. -/
  current? : Option String
  /-- Whether the latest option can be continued. -/
  isOpen : Bool
  /-- The indentation of the latest line that was not a continuation. -/
  indentation : Nat
  /-- The lines that could not be read, the latest first. -/
  bad : List (Nat × String)

def Draft.empty : Draft :=
  { sections := [], options := [], current? := none, isOpen := false, indentation := 0, bad := [] }

/-- The draft with a further line in the value of the latest option. -/
def Draft.continued (draft : Draft) (line : String) : Draft :=
  match draft.options with
  | [] => draft
  | option :: rest =>
    { draft with options := { option with lines := option.lines ++ [line] } :: rest }

/-- The name between the first bracket and the last closing one. -/
def headerName? (chars : List Char) : Option (List Char) :=
  match chars with
  | '[' :: rest =>
    let name := (rest.reverse.dropWhile (· != ']')).drop 1
    if name.isEmpty then none else some name.reverse
  | _ => none

/-- The name and the value of an option, apart at the first mark between them. -/
def splitOption? (chars : List Char) : Option (List Char × List Char) :=
  match chars.span fun c => c != '=' && c != ':' with
  | (_, []) => none
  | (name, _ :: value) => some (dropTrailing isBlank name, trimBoth isBlank value)

/-- The draft after the line that begins a section. -/
def Draft.withSection (draft : Draft) (name : String) (line : Nat) : Except ProfilesFault Draft :=
  let opened := { draft with current? := some name, isOpen := false }
  if name == defaultSection then .ok opened
  else if draft.sections.contains name then .error (.repeatedSection name line)
  else .ok { opened with sections := name :: draft.sections }

/-- The draft after a line with an option, or with something that is none. -/
def Draft.withOption (draft : Draft) (sectionName : String) (line : Nat) (text : String)
    (chars : List Char) : Except ProfilesFault Draft :=
  match splitOption? chars with
  | none => .ok { draft with bad := (line, text) :: draft.bad }
  | some (name, value) =>
    let name := lower (String.ofList name)
    if draft.options.any fun option => option.sectionName == sectionName && option.name == name then
      .error (.repeatedOption name sectionName line)
    else
      .ok { draft with
        options := ⟨sectionName, name, [String.ofList value]⟩ :: draft.options
        isOpen := name != ""
        bad := if name == "" then (line, text) :: draft.bad else draft.bad }

/-- The draft after a further line, which is given with its end. -/
def Draft.withLine (draft : Draft) (line : Nat) (text : String) : Except ProfilesFault Draft :=
  let chars := trimBoth isBlank text.toList
  let indentation := (text.toList.takeWhile isBlank).length
  match chars with
  | [] => .ok (if draft.isOpen then draft.continued "" else draft)
  | c :: _ =>
    if c == '#' || c == ';' then .ok draft
    else if draft.isOpen && draft.indentation < indentation then
      .ok (draft.continued (String.ofList chars))
    else
      let draft := { draft with indentation }
      match headerName? chars, draft.current? with
      | some name, _ => draft.withSection (String.ofList name) line
      | none, none => .error (.noSection line text)
      | none, some sectionName => draft.withOption sectionName line text chars

/-- The draft after further lines. -/
def Draft.withLines (draft : Draft) : Nat → List String → Except ProfilesFault Draft
  | _, [] => .ok draft
  | line, text :: rest =>
    match draft.withLine line text with
    | .ok next => next.withLines (line + 1) rest
    | .error fault => .error fault

/-- The lines of a text that have an end, each with it. -/
def wholeLines (chars : List Char) : List String :=
  (splitAtEvery (· == '\n') chars).dropLast.map fun part => String.ofList (part ++ ['\n'])

/-- The lines of a text, each with its end. -/
def linesOf (chars : List Char) : List String :=
  match (splitAtEvery (· == '\n') chars).getLast? with
  | some last =>
    if last.isEmpty then wholeLines chars else wholeLines chars ++ [String.ofList last]
  | none => wholeLines chars

/-- The profiles of a text. -/
def ofText (text : String) : Except ProfilesFault Profiles :=
  match Draft.empty.withLines 1 (linesOf text.toList) with
  | .error fault => .error fault
  | .ok draft =>
    if draft.bad.isEmpty then
      .ok { sections := draft.sections.reverse, options := draft.options.reverse }
    else .error (.badLines draft.bad.reverse)

/-- The fault that a file has before the reader gets to what is not decoded.  Lines that cannot be
read are only reported at the end of a file. -/
def faultBefore? (before : String) : Option ProfilesFault :=
  match Draft.empty.withLines 1 (wholeLines before.toList) with
  | .error fault => some fault
  | .ok _ => none

/-! ## Looking up -/

/-- Whether there is a section of a name; the one for all sections always is. -/
def hasSection (profiles : Profiles) (name : String) : Bool :=
  name == defaultSection || profiles.sections.contains name

/-- The value of an option written in a section. -/
def own? (profiles : Profiles) (sectionName name : String) : Option String :=
  (profiles.options.find? fun option =>
    option.sectionName == sectionName && option.name == name).map fun option =>
      String.ofList (dropTrailing isBlank ("\n".intercalate option.lines).toList)

/-- The value of an option that holds in a section. -/
def get? (profiles : Profiles) (sectionName name : String) : Option String :=
  match profiles.own? sectionName name with
  | some value => some value
  | none => profiles.own? defaultSection name

end Profiles

end DashboardExport.Configuration
