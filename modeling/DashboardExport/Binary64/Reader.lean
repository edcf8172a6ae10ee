import DashboardExport.Binary64.Basic
import DashboardExport.Text.Blank

/-!
# Numbers written as text

The usual way to write a floating-point number outside JSON: a sign, then a word
for one of the numbers that are not finite, or digits with an optional point and
an optional exponent.  A digit has to stand on one side of the point.
-/

set_option autoImplicit false

namespace DashboardExport.Binary64

/-- Splits a sign off the front. -/
def splitSign : List Char → Bool × List Char
  | '-' :: rest => (true, rest)
  | '+' :: rest => (false, rest)
  | rest => (false, rest)

/-- The words for the numbers that are not finite, in either case. -/
def ofWord? (negative : Bool) (chars : List Char) : Option Binary64 :=
  let word := String.ofList (chars.map Char.toLower)
  if word == "inf" || word == "infinity" then some (.infinite negative)
  else if word == "nan" then some .nan
  else none

/-- An exponent, or nothing. -/
def readExponentText : List Char → Option Int
  | [] => some 0
  | c :: rest =>
    let (negative, digits) := splitSign rest
    if (c == 'e' || c == 'E') && !digits.isEmpty && digits.all Char.isDigit then
      let magnitude : Int := (Nat.ofDigitChars 10 digits 0 : Nat)
      some (if negative then -magnitude else magnitude)
    else none

/-- The number that digits with an optional point and exponent stand for. -/
def ofDecimalText? (negative : Bool) (chars : List Char) : Option Binary64 :=
  let (whole, rest) := chars.span Char.isDigit
  let (fraction, rest) := match rest with
    | '.' :: rest' => rest'.span Char.isDigit
    | _ => ([], rest)
  if whole.isEmpty && fraction.isEmpty then none
  else
    (readExponentText rest).map fun exponent =>
      ofDecimal negative (Nat.ofDigitChars 10 (whole ++ fraction) 0)
        (exponent - (fraction.length : Int))

/-- The number that a text stands for. -/
def ofText? (chars : List Char) : Option Binary64 :=
  let (negative, body) := splitSign chars
  match ofWord? negative body with
  | some x => some x
  | none => ofDecimalText? negative body

end DashboardExport.Binary64
