import DashboardExport.Text.Hex
import DashboardExport.Text.Printable
import DashboardExport.Text.Surrogate

/-!
# Texts shown in messages

A message shows a text between quotation marks with everything that could be
mistaken made visible: backslashes, the mark itself, line ends and all characters
that are not printable.  Single marks are used unless the text holds a single
mark and no double one.
-/

set_option autoImplicit false

namespace DashboardExport.Text

/-- The escape of a character that is not printable: the shortest of the three widths.  A lone
surrogate has the escape of its own code. -/
def codeEscape (c : Char) : List Char :=
  if isStandIn c then '\\' :: 'u' :: hexDigits 4 (surrogateOf c)
  else if c.toNat < 0x100 then '\\' :: 'x' :: hexDigits 2 c.toNat
  else if c.toNat < 0x10000 then '\\' :: 'u' :: hexDigits 4 c.toNat
  else '\\' :: 'U' :: hexDigits 8 c.toNat

/-- How a character is shown between the given marks. -/
def shownChar (mark c : Char) : List Char :=
  if c == mark || c == '\\' then ['\\', c]
  else if c == '\t' then ['\\', 't']
  else if c == '\n' then ['\\', 'n']
  else if c == '\r' then ['\\', 'r']
  else if isPrintable c then [c]
  else codeEscape c

/-- The quotation mark a text is shown with. -/
def markFor (chars : List Char) : Char :=
  if chars.contains '\'' && !chars.contains '"' then '"' else '\''

/-- A text as messages show it. -/
def literal (text : String) : String :=
  let chars := text.toList
  let mark := markFor chars
  String.ofList (mark :: (chars.flatMap (shownChar mark) ++ [mark]))

end DashboardExport.Text
