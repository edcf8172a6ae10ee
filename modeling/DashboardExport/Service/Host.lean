import DashboardExport.Service.Percent
import DashboardExport.Text.Digit
import DashboardExport.Text.Hex
import DashboardExport.Text.Blank

/-!
# Hosts

The host of an address is a dotted number, a bracketed colon-separated number or a
name.  Numbers have to be well formed and are kept as they are written, the
second kind without its brackets.  This module tells numbers from names.
-/

set_option autoImplicit false

namespace DashboardExport.Service.Host

open DashboardExport.Text

/-! ## Dotted numbers -/

/-- Whether a text consists of ASCII digits. -/
def isNumeral (chars : List Char) : Bool := !chars.isEmpty && chars.all Char.isDigit

/-- Whether a host is read as a dotted number: it is made of four numbers with one character between
each two, which can be a digit too.  So a run of digits holds a number for every two of them. -/
def looksDotted (chars : List Char) : Bool :=
  let runs := splitAtEvery (!·.isDigit) chars
  let numbers := runs.foldl (fun count run => count + (run.length + 1) / 2) 0
  runs.length ≤ 4 && runs.all isNumeral && 4 ≤ numbers

/-- Whether a part is a number up to 255 without a leading zero. -/
def isOctet (chars : List Char) : Bool :=
  isNumeral chars && chars.length ≤ 3 && (chars.head? != some '0' || chars.length == 1) &&
    Nat.ofDigitChars 10 chars 0 ≤ 255

/-- Whether a host is a dotted number. -/
def isDotted (chars : List Char) : Bool :=
  let parts := splitAtEvery (· == '.') chars
  parts.length == 4 && parts.all isOctet

/-! ## Colon-separated numbers -/

/-- Whether a part is a hexadecimal number of up to four digits. -/
def isHextet (chars : List Char) : Bool :=
  !chars.isEmpty && chars.length ≤ 4 && chars.all fun c => (hexValue? c).isSome

/-- The parts of a colon-separated number, a dotted number at its end counting as two. -/
def hextets? (chars : List Char) : Option (List (List Char)) :=
  let parts := splitAtEvery (· == ':') chars
  if parts.length < 3 then none
  else
    match parts.getLast? with
    | some last =>
      if last.contains '.' then
        if isDotted last then some (parts.dropLast ++ [['0'], ['0']]) else none
      else some parts
    | none => none

/-- The places of the empty parts that are neither first nor last. -/
def innerGaps (parts : List (List Char)) : List Nat :=
  (List.range parts.length).filter fun place =>
    0 < place && place + 1 < parts.length && (parts[place]?.getD []).isEmpty

/-- Whether parts with one gap between them are well formed: the gap stands for at least one part,
and an empty part at an end belongs to the gap. -/
def fillsGap (before after : List (List Char)) : Bool :=
  let above := if before == [[]] then [] else before
  let below := if after == [[]] then [] else after
  above.all isHextet && below.all isHextet && above.length + below.length < 8

/-- Whether a text is a colon-separated number; a zone may follow after a percent sign. -/
def isColonSeparated (chars : List Char) : Bool :=
  let (number, zone) := chars.span (· != '%')
  let zoneFits := match zone with
    | [] => true
    | _ :: name => !name.isEmpty && !name.contains '%'
  zoneFits &&
    match hextets? number with
    | none => false
    | some parts =>
      parts.length ≤ 9 &&
        match innerGaps parts with
        | [] => parts.length == 8 && parts.all isHextet
        | [gap] => fillsGap (parts.take gap) (parts.drop (gap + 1))
        | _ => false

end DashboardExport.Service.Host
