import DashboardExport.Text.Blank
import DashboardExport.Text.Digit
import DashboardExport.Text.Literal

/-!
# Integers written as text

The usual way to write an integer outside JSON: blanks around it, a sign, and
digits of any script, between which single underscores may stand.  In another
base than ten the digits go on with the letters, and a mark of the base may come
before them.
-/

set_option autoImplicit false

namespace DashboardExport.Text

/-- Why a text is no integer. -/
inductive IntegerFault where
  /-- The text has another form. -/
  | malformed (base : Nat) (text : String)
  /-- The text has more digits than are read. -/
  | tooLong (digits : Nat)
  deriving DecidableEq

/-- The most digits that are read in base ten. -/
def decimalDigitLimit : Nat := 4300

/-- The most characters of a malformed text that are shown. -/
def shownLimit : Nat := 200

/-- The words for a text that is no integer. -/
def IntegerFault.message : IntegerFault → String
  | .malformed base text =>
    "invalid literal for int() with base " ++ toString base ++ ": " ++
      String.ofList ((literal text).toList.take shownLimit)
  | .tooLong digits =>
    "Exceeds the limit (" ++ toString decimalDigitLimit ++
      " digits) for integer string conversion: value has " ++ toString digits ++
      " digits; use sys.set_int_max_str_digits() to increase the limit"

/-- The value of a digit, letters of both cases following the decimal digits. -/
def digitValue? (c : Char) : Option Nat :=
  match decimalValue? c with
  | some value => some value
  | none =>
    if 'a' ≤ c && c ≤ 'z' then some (c.toNat - 'a'.toNat + 10)
    else if 'A' ≤ c && c ≤ 'Z' then some (c.toNat - 'A'.toNat + 10)
    else none

/-- The values of the digits of a run, all below the base; underscores separate runs of digits. -/
def digitRun? (base : Nat) (chars : List Char) : Option (List Nat) :=
  (splitAtEvery (· == '_') chars).foldr
    (fun group digits => do
      let tail ← digits
      let values ← group.mapM digitValue?
      if !values.isEmpty && values.all (· < base) then some (values ++ tail) else none)
    (some [])

/-- The number that digits stand for. -/
def ofDigits (base : Nat) (digits : List Nat) : Nat :=
  digits.foldl (fun value digit => base * value + digit) 0

/-- The letters that mark a base, in either case, behind a zero. -/
def baseMarks : List (Char × Nat) :=
  [('b', 2), ('B', 2), ('o', 8), ('O', 8), ('x', 16), ('X', 16)]

/-- What is left after the mark of a base, and after an underscore behind it. -/
def afterBaseMark (base : Nat) : List Char → List Char
  | zero :: letter :: rest =>
    if decimalValue? zero == some 0 && baseMarks.contains (letter, base) then
      if rest.head? == some '_' then rest.drop 1 else rest
    else zero :: letter :: rest
  | chars => chars

/-- Base ten has no mark. -/
@[simp] theorem afterBaseMark_ten (chars : List Char) : afterBaseMark 10 chars = chars := by
  have unmarked (letter : Char) : baseMarks.contains (letter, 10) = false := by
    simp [baseMarks]
  unfold afterBaseMark
  split
  · rw [unmarked, Bool.and_false, if_neg Bool.false_ne_true]
  · rfl

/-- The integer that a text stands for. -/
def readInteger (base : Nat) (text : String) : Except IntegerFault Int :=
  let body := trimBoth isBlank text.toList
  let (negative, unsigned) := match body with
    | '-' :: rest => (true, rest)
    | '+' :: rest => (false, rest)
    | rest => (false, rest)
  match digitRun? base (afterBaseMark base unsigned) with
  | none => .error (.malformed base text)
  | some digits =>
    if base == 10 && decimalDigitLimit < digits.length then .error (.tooLong digits.length)
    else
      let magnitude : Int := (ofDigits base digits : Nat)
      .ok (if negative then -magnitude else magnitude)

end DashboardExport.Text
