import DashboardExport.Binary64.Reader
import DashboardExport.Decoding.Issue
import DashboardExport.Text.Blank
import DashboardExport.Text.Encoding

/-!
# Lenient reading of scalars

Services and configuration files write numbers and truth values in several ways,
and fields take all of them: an integer also as a text, as a whole floating-point
number or as a truth value; a truth value also as `0`, `1` or one of the usual
words.  Each reader says which fault the values it refuses have.
-/

set_option autoImplicit false

namespace DashboardExport.Decoding

open DashboardExport.Text

/-- A value as far as scalar fields look at it. -/
inductive Scalar where
  | null
  | bool (value : Bool)
  | int (value : Int)
  | float (value : Binary64)
  | text (value : String)
  /-- Bytes, which count as the text that they encode. -/
  | bytes (contents : List UInt8)
  /-- A list, an object or any other value that no scalar field takes. -/
  | compound

/-- A JSON value as far as scalar fields look at it. -/
def Scalar.ofJson : Json → Scalar
  | .null => .null
  | .bool b => .bool b
  | .int n => .int n
  | .float x => .float x
  | .str s => .text s
  | .arr _ => .compound
  | .obj _ => .compound

/-- The text that bytes encode, or the fault of those that encode none. -/
def textOfBytes (contents : List UInt8) (fault : Fault) : Except Fault String :=
  match strict? (decodeUtf8 contents) with
  | some text => .ok text
  | none => .error fault

/-! ## Texts -/

/-- Reads a text field. -/
def Scalar.string : Scalar → Except Fault String
  | .text s => .ok s
  | .bytes contents => textOfBytes contents .notUnicode
  | _ => .error .notString

/-! ## Integers -/

/-- The most digits an integer written as text may have. -/
def integerDigitLimit : Nat := 4300

/-- The integers that whole floating-point numbers are taken as are less than this in magnitude. -/
def wordBound : Int := 9223372036854775808

/-- The digits of a run in which single underscores may separate digits. -/
def digitGroups? (chars : List Char) : Option (List Char) :=
  let groups := splitAtEvery (· == '_') chars
  if groups.all fun group => !group.isEmpty && group.all Char.isDigit then some groups.flatten
  else none

/-- Whether what follows the digits of an integer is nothing, or a point and zeros. -/
def isZeroFraction : List Char → Bool
  | [] => true
  | '.' :: zeros => !zeros.isEmpty && zeros.all (· == '0')
  | _ => false

/-- The integer a text stands for. -/
def readIntegerText (text : String) : Except Fault Int :=
  let (negative, body) := Binary64.splitSign (trimBoth isWhiteSpace text.toList)
  let (whole, fraction) := body.span (· != '.')
  match digitGroups? whole, isZeroFraction fraction with
  | some digits, true =>
    if integerDigitLimit < digits.length then .error .integerSize
    else
      let magnitude : Int := (Nat.ofDigitChars 10 digits 0 : Nat)
      .ok (if negative then -magnitude else magnitude)
  | _, _ => .error .integerSyntax

/-- The integer a floating-point number is taken as. -/
def integerOfFloat (x : Binary64) : Except Fault Int :=
  if !x.isFinite then .error .notFinite
  else if !x.isIntegral then .error .fractionalInteger
  else
    match x.truncate? with
    | some n => if -wordBound < n && n < wordBound then .ok n else .error .integerSize
    | none => .error .notFinite

/-- Reads an integer field. -/
def Scalar.integer : Scalar → Except Fault Int
  | .int n => .ok n
  | .bool b => .ok (if b then 1 else 0)
  | .float x => integerOfFloat x
  | .text s => readIntegerText s
  | .bytes contents => (textOfBytes contents .integerSyntax).bind readIntegerText
  | .null => .error .notInteger
  | .compound => .error .notInteger

/-! ## Floating-point numbers -/

/-- Removes the underscores of a number, each of which has to stand between two digits. -/
def dropSeparators? (afterDigit : Bool) : List Char → Option (List Char)
  | [] => some []
  | '_' :: c :: rest =>
    if afterDigit && c.isDigit then (dropSeparators? true rest).map (c :: ·) else none
  | c :: rest =>
    if c == '_' then none else (dropSeparators? c.isDigit rest).map (c :: ·)

/-- The number a text stands for. -/
def readNumberText (text : String) : Except Fault Binary64 :=
  match dropSeparators? false (trimBoth isWhiteSpace text.toList) with
  | none => .error .numberSyntax
  | some chars =>
    match Binary64.ofText? chars with
    | some x => .ok x
    | none => .error .numberSyntax

/-- Reads a floating-point field.  An integer is rounded to the nearest number and has to be in
range. -/
def Scalar.number : Scalar → Except Fault Binary64
  | .int n => if (Binary64.ofInt n).isFinite then .ok (Binary64.ofInt n) else .error .notNumber
  | .bool b => .ok (Binary64.ofInt (if b then 1 else 0))
  | .float x => .ok x
  | .text s => readNumberText s
  | .bytes contents => (textOfBytes contents .numberSyntax).bind readNumberText
  | .null => .error .notNumber
  | .compound => .error .notNumber

/-! ## Truth values -/

/-- The words for the truth values, in lower case. -/
def truthWord? (word : String) : Option Bool :=
  if ["0", "off", "f", "false", "n", "no"].contains word then some false
  else if ["1", "on", "t", "true", "y", "yes"].contains word then some true
  else none

/-- The truth value of an integer. -/
def truthOfInt (n : Int) : Except Fault Bool :=
  if n == 0 then .ok false else if n == 1 then .ok true else .error .booleanSyntax

/-- The truth value that a text stands for. -/
def readTruthText (text : String) : Except Fault Bool :=
  match truthWord? (String.ofList (text.toList.map Char.toLower)) with
  | some b => .ok b
  | none => .error .booleanSyntax

/-- Reads a truth value. -/
def Scalar.boolean : Scalar → Except Fault Bool
  | .bool b => .ok b
  | .int n => if -wordBound ≤ n && n < wordBound then truthOfInt n else .error .notBoolean
  | .float x =>
    match integerOfFloat x with
    | .ok n => truthOfInt n
    | .error _ => .error .notBoolean
  | .text s => readTruthText s
  | .bytes contents => (textOfBytes contents .booleanSyntax).bind readTruthText
  | .null => .error .notBoolean
  | .compound => .error .notBoolean

end DashboardExport.Decoding
