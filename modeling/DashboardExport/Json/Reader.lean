import DashboardExport.Json.Basic
import DashboardExport.Text.Encoding
import DashboardExport.Text.Hex

/-!
# Reading JSON texts

A recursive-descent reader over the characters of a text.  Beyond the standard it
takes the words `NaN`, `Infinity` and `-Infinity`; of a repeated key the last
value counts; an integer has at most `digitLimit` digits.  A number with a
fraction or an exponent is a floating-point number, every other one an integer.

Each call of `readValue` has a budget that falls with the call; `parse?` gives
twice the number of characters, more than any text can use up.
-/

set_option autoImplicit false

namespace DashboardExport.Json

/-- The most digits an integer may have. -/
def digitLimit : Nat := 4300

/-- The blanks that may stand between the parts of a text. -/
def isGap (c : Char) : Bool := c == ' ' || c == '\t' || c == '\n' || c == '\r'

/-- What is left of a text after the blanks at its front. -/
def skipGap (chars : List Char) : List Char := chars.dropWhile isGap

/-- What is left of a text after the given word, if it starts with it. -/
def afterWord? : List Char → List Char → Option (List Char)
  | [], rest => some rest
  | _ :: _, [] => none
  | c :: word, d :: rest => if c == d then afterWord? word rest else none

/-! ## Strings -/

/-- The character of a one-letter escape. -/
def letterEscape? : Char → Option Char
  | '"' => some '"'
  | '\\' => some '\\'
  | '/' => some '/'
  | 'b' => some (Char.ofNat 0x08)
  | 'f' => some (Char.ofNat 0x0C)
  | 'n' => some '\n'
  | 'r' => some '\r'
  | 't' => some '\t'
  | _ => none

/-- The number that four hexadecimal digits stand for. -/
def hexUnit? (a b c d : Char) : Option Nat :=
  (Text.readHex 4 0 [a, b, c, d]).map Prod.fst

/-- Whether a unit opens a surrogate pair. -/
def isHigh (unit : Nat) : Bool := 0xD800 ≤ unit && unit ≤ 0xDBFF

/-- Whether a unit closes a surrogate pair. -/
def isLow (unit : Nat) : Bool := 0xDC00 ≤ unit && unit ≤ 0xDFFF

/-- The character of a surrogate pair. -/
def ofPair (high low : Nat) : Char :=
  Text.charOfCode (0x10000 + (high - 0xD800) * 0x400 + (low - 0xDC00))

/-- Reads a string from behind its opening quotation mark.  Control characters have to be escaped;
a surrogate escape without its partner is a lone surrogate. -/
def readChars : List Char → Option (List Char × List Char)
  | [] => none
  | '"' :: rest => some ([], rest)
  | '\\' :: 'u' :: a :: b :: c :: d :: rest =>
    match hexUnit? a b c d, rest with
    | none, _ => none
    | some unit, '\\' :: 'u' :: e :: f :: g :: h :: rest' =>
      match isHigh unit, hexUnit? e f g h with
      | true, some low =>
        if isLow low then (readChars rest').map fun r => (ofPair unit low :: r.1, r.2)
        else (readChars ('\\' :: 'u' :: e :: f :: g :: h :: rest')).map fun r =>
          (Text.charOfCode unit :: r.1, r.2)
      | _, _ =>
        (readChars ('\\' :: 'u' :: e :: f :: g :: h :: rest')).map fun r =>
          (Text.charOfCode unit :: r.1, r.2)
    | some unit, rest => (readChars rest).map fun r => (Text.charOfCode unit :: r.1, r.2)
  | '\\' :: c :: rest =>
    match letterEscape? c with
    | some escaped => (readChars rest).map fun r => (escaped :: r.1, r.2)
    | none => none
  | c :: rest =>
    if c.toNat < 0x20 || c == '\\' then none else (readChars rest).map fun r => (c :: r.1, r.2)

/-! ## Numbers -/

/-- Splits the digits off the front. -/
def spanDigits (chars : List Char) : List Char × List Char := chars.span Char.isDigit

/-- The fraction digits, if a point and a digit follow. -/
def readFraction : List Char → List Char × List Char
  | '.' :: rest =>
    match spanDigits rest with
    | ([], _) => ([], '.' :: rest)
    | (digits, rest') => (digits, rest')
  | rest => ([], rest)

/-- The sign and the digits of an exponent that follows its letter. -/
def readExponentDigits (negative : Bool) (rest : List Char) : Option (Int × List Char) :=
  match spanDigits rest with
  | ([], _) => none
  | (digits, rest') =>
    let magnitude : Int := (Nat.ofDigitChars 10 digits 0 : Nat)
    some (if negative then -magnitude else magnitude, rest')

/-- The exponent, if one follows. -/
def readExponent : List Char → Option (Int × List Char)
  | c :: '-' :: rest => if c == 'e' || c == 'E' then readExponentDigits true rest else none
  | c :: '+' :: rest => if c == 'e' || c == 'E' then readExponentDigits false rest else none
  | c :: rest => if c == 'e' || c == 'E' then readExponentDigits false rest else none
  | [] => none

/-- The digits before the point: a single zero or a run that starts with another digit. -/
def readWhole : List Char → Option (List Char × List Char)
  | '0' :: rest => some (['0'], rest)
  | rest =>
    match spanDigits rest with
    | ([], _) => none
    | (digits, rest') => some (digits, rest')

/-- The integer that a sign and digits stand for. -/
def signed (negative : Bool) (digits : List Char) : Int :=
  let magnitude : Int := (Nat.ofDigitChars 10 digits 0 : Nat)
  if negative then -magnitude else magnitude

/-- Reads a number from behind its sign. -/
def readNumber (negative : Bool) (chars : List Char) : Option (Json × List Char) :=
  match readWhole chars with
  | none => none
  | some (whole, rest) =>
    let (fraction, rest) := readFraction rest
    match readExponent rest with
    | some (exponent, rest) =>
      some (.float (Binary64.ofDecimal negative (Nat.ofDigitChars 10 (whole ++ fraction) 0)
        (exponent - (fraction.length : Int))), rest)
    | none =>
      if fraction.isEmpty then
        if digitLimit < whole.length then none else some (.int (signed negative whole), rest)
      else
        some (.float (Binary64.ofDecimal negative (Nat.ofDigitChars 10 (whole ++ fraction) 0)
          (-(fraction.length : Int))), rest)

/-- The words, with what each stands for. -/
def words : List (List Char × Json) :=
  [("null".toList, .null), ("true".toList, .bool true), ("false".toList, .bool false),
    ("NaN".toList, .float .nan), ("Infinity".toList, .float (.infinite false)),
    ("-Infinity".toList, .float (.infinite true))]

/-- Reads a word or a number. -/
def readPlain (chars : List Char) : Option (Json × List Char) :=
  match words.findSome? fun word => (afterWord? word.1 chars).map fun rest => (word.2, rest) with
  | some found => some found
  | none =>
    match chars with
    | '-' :: rest => readNumber true rest
    | _ => readNumber false chars

/-! ## Values -/

mutual
/-- Reads a value from the front. -/
def readValue : Nat → List Char → Option (Json × List Char)
  | 0, _ => none
  | fuel + 1, chars =>
    match chars with
    | '"' :: rest => (readChars rest).map fun r => (.str (String.ofList r.1), r.2)
    | '[' :: rest =>
      match skipGap rest with
      | ']' :: rest' => some (.arr [], rest')
      | rest' => (readItems fuel rest').map fun r => (.arr r.1, r.2)
    | '{' :: rest =>
      match skipGap rest with
      | '}' :: rest' => some (.obj [], rest')
      | rest' => (readMembers fuel rest').map fun r => (ofMembers r.1, r.2)
    | _ => readPlain chars

/-- Reads the items of a list that has at least one, up to its end. -/
def readItems : Nat → List Char → Option (List Json × List Char)
  | 0, _ => none
  | fuel + 1, chars =>
    match readValue fuel chars with
    | none => none
    | some (item, rest) =>
      match skipGap rest with
      | ']' :: rest' => some ([item], rest')
      | ',' :: rest' => (readItems fuel (skipGap rest')).map fun r => (item :: r.1, r.2)
      | _ => none

/-- Reads the members of an object that has at least one, up to its end. -/
def readMembers : Nat → List Char → Option (List (String × Json) × List Char)
  | 0, _ => none
  | fuel + 1, chars =>
    match chars with
    | '"' :: rest =>
      match readChars rest with
      | none => none
      | some (key, rest) =>
        match skipGap rest with
        | ':' :: rest =>
          match readValue fuel (skipGap rest) with
          | none => none
          | some (value, rest) =>
            match skipGap rest with
            | '}' :: rest' => some ([(String.ofList key, value)], rest')
            | ',' :: rest' =>
              (readMembers fuel (skipGap rest')).map fun r =>
                ((String.ofList key, value) :: r.1, r.2)
            | _ => none
        | _ => none
    | _ => none
end

/-- The value a whole text stands for. -/
def parse? (text : String) : Option Json :=
  let chars := text.toList
  match readValue (2 * chars.length + 2) (skipGap chars) with
  | some (value, rest) => if (skipGap rest).isEmpty then some value else none
  | none => none

end DashboardExport.Json
