import DashboardExport.Text.Hex

/-!
# Quoted strings

The double-quoted form that string values have in JSON and in the generated
configuration.  A quotation mark and a backslash get a backslash before them, the
five common control characters have a letter each, every other control character
is written with four hexadecimal digits, and all else stands for itself.
-/

set_option autoImplicit false

namespace DashboardExport.Text

/-- The quoted form of one character. -/
def quotedChar (c : Char) : List Char :=
  if c == '"' || c == '\\' then ['\\', c]
  else if c == '\n' then ['\\', 'n']
  else if c == '\r' then ['\\', 'r']
  else if c == '\t' then ['\\', 't']
  else if c.toNat == 0x08 then ['\\', 'b']
  else if c.toNat == 0x0C then ['\\', 'f']
  else if c.toNat < 0x20 then '\\' :: 'u' :: hexDigits 4 c.toNat
  else [c]

/-- The quoted form of a text, between its quotation marks. -/
def quotedChars (chars : List Char) : List Char :=
  '"' :: (chars.flatMap quotedChar ++ ['"'])

/-- The quoted form of a text. -/
def quoted (text : String) : String :=
  String.ofList (quotedChars text.toList)

end DashboardExport.Text
