import DashboardExport.Text.Blank

/-!
# Paths

A path is kept in the normal form in which it is also printed: empty parts and
single dots are dropped, double dots stay, and of the slashes at the front one
remains, or two if there were exactly two.  The path without parts is `.`.
-/

set_option autoImplicit false

namespace DashboardExport.Storage

/-- What a path starts from. -/
inductive Anchor where
  | workingDirectory
  | root
  /-- The root, written with two slashes. -/
  | doubleRoot
  deriving DecidableEq

/-- A path in normal form. -/
structure Path where
  anchor : Anchor
  parts : List String
  deriving DecidableEq

namespace Path

/-- The anchor of a path as it is written. -/
def anchorOf : List Char → Anchor
  | '/' :: '/' :: '/' :: _ => .root
  | '/' :: '/' :: _ => .doubleRoot
  | '/' :: _ => .root
  | _ => .workingDirectory

/-- The parts between the slashes that count. -/
def partsOf (chars : List Char) : List String :=
  ((Text.splitAtEvery (· == '/') chars).map String.ofList).filter
    fun part => part != "" && part != "."

/-- The normal form of a path. -/
def ofText (text : String) : Path :=
  { anchor := anchorOf text.toList, parts := partsOf text.toList }

def Anchor.text : Anchor → String
  | .workingDirectory => ""
  | .root => "/"
  | .doubleRoot => "//"

/-- A path as it is printed. -/
def text (path : Path) : String :=
  match path.anchor, path.parts with
  | .workingDirectory, [] => "."
  | anchor, parts => Anchor.text anchor ++ "/".intercalate parts

/-- The path of an entry of a directory, or of whatever the second path leads to from there. -/
def join (directory path : Path) : Path :=
  match path.anchor with
  | .workingDirectory => { directory with parts := directory.parts ++ path.parts }
  | _ => path

/-- The path of a direct child. -/
def child (directory : Path) (name : String) : Path :=
  { directory with parts := directory.parts ++ [name] }

/-- The text of a home directory as a path to start from. -/
def ofHome (home : String) : Path :=
  let chars := Text.dropTrailing (· == '/') home.toList
  if chars.isEmpty then ⟨.root, []⟩ else ofText (String.ofList chars)

/-- The path with a home directory in place of its first part. -/
def expandHome (home : String) (path : Path) : Path :=
  let base := ofHome home
  { base with parts := base.parts ++ path.parts.drop 1 }

end Path

end DashboardExport.Storage
