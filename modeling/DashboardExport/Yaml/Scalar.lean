import DashboardExport.Binary64.Reader
import DashboardExport.Text.Integer
import DashboardExport.Text.Lowercase
import DashboardExport.Yaml.Token

/-!
# Scalars of YAML

A plain scalar has a type of its own, read off its text: truth values, integers in
four bases and in base sixty, floating-point numbers, null, dates, and the two
marks for merging and for a default value.  Everything else is a text.

The type is decided by form alone; the value is read afterwards, in a more lenient
way, because a tag can ask for a type whose form the text has not.
-/

set_option autoImplicit false

namespace DashboardExport.Yaml

open DashboardExport.Text

/-- The types of values. -/
inductive Tag where
  | null
  | bool
  | int
  | float
  | binary
  | timestamp
  | orderedMap
  | pairs
  | set
  | str
  | seq
  | map
  | merge
  | defaultValue
  /-- The type of the marks that other nodes begin with. -/
  | mark
  | other
  deriving DecidableEq

/-- The beginning that the tags of the standard types have in common. -/
def Tag.standard : String := "tag:yaml.org,2002:"

/-- The standard types by their tags. -/
def Tag.standardTypes : List (String × Tag) :=
  [("null", .null), ("bool", .bool), ("int", .int), ("float", .float), ("binary", .binary),
    ("timestamp", .timestamp), ("omap", .orderedMap), ("pairs", .pairs), ("set", .set),
    ("str", .str), ("seq", .seq), ("map", .map), ("merge", .merge), ("value", .defaultValue),
    ("yaml", .mark)]

/-- The type a tag stands for. -/
def Tag.ofText (text : String) : Tag :=
  (Tag.standardTypes.find? fun entry => Tag.standard ++ entry.1 == text).elim .other Prod.snd

/-! ## Forms -/

/-- Whether all characters are digits, of which there is at least one, or underscores after it. -/
def isSpacedNumeral : List Char → Bool
  | [] => false
  | c :: rest => c.isDigit && rest.all fun d => d.isDigit || d == '_'

/-- What is left after a sign. -/
def afterSign : List Char → List Char
  | '-' :: rest => rest
  | '+' :: rest => rest
  | rest => rest

/-- Whether a part is a number below sixty. -/
def isSixtieth : List Char → Bool
  | [a] => a.isDigit
  | [a, b] => '0' ≤ a && a ≤ '5' && b.isDigit
  | _ => false

/-- The words for truth values, each in three spellings. -/
def truthWords : List (String × Bool) :=
  [("yes", true), ("Yes", true), ("YES", true), ("no", false), ("No", false), ("NO", false),
    ("true", true), ("True", true), ("TRUE", true), ("false", false), ("False", false),
    ("FALSE", false), ("on", true), ("On", true), ("ON", true), ("off", false), ("Off", false),
    ("OFF", false)]

def hasTruthForm (chars : List Char) : Bool :=
  (truthWords.lookup (String.ofList chars)).isSome

def hasNullForm (chars : List Char) : Bool :=
  ["", "~", "null", "Null", "NULL"].contains (String.ofList chars)

/-- Whether digits of a base and underscores follow, at least one of them. -/
def isRunOf (digit : Char → Bool) (chars : List Char) : Bool :=
  !chars.isEmpty && chars.all fun c => c == '_' || digit c

def hasIntegerForm (chars : List Char) : Bool :=
  match afterSign chars with
  | '0' :: 'b' :: rest => isRunOf (fun c => c == '0' || c == '1') rest
  | '0' :: 'x' :: rest => isRunOf (fun c => (hexValue? c).isSome) rest
  | '0' :: [] => true
  | '0' :: rest => isRunOf (fun c => '0' ≤ c && c ≤ '7') rest
  | body =>
    match splitAtEvery (· == ':') body with
    | whole :: sixtieths => isSpacedNumeral whole && sixtieths.all isSixtieth
    | [] => false

/-- Whether an exponent with its sign, or nothing, stands here. -/
def hasExponentForm : List Char → Bool
  | [] => true
  | e :: s :: digits =>
    (e == 'e' || e == 'E') && (s == '-' || s == '+') && !digits.isEmpty &&
      digits.all Char.isDigit
  | _ => false

def hasFloatForm (chars : List Char) : Bool :=
  let isSpaced (c : Char) : Bool := c.isDigit || c == '_'
  let body := afterSign chars
  if [".inf", ".Inf", ".INF"].contains (String.ofList body) then true
  else if [".nan", ".NaN", ".NAN"].contains (String.ofList chars) then true
  else
    match chars with
    | '.' :: d :: rest => d.isDigit && hasExponentForm (rest.dropWhile isSpaced)
    | _ =>
      let (whole, rest) := body.span (· != '.')
      match rest with
      | [] => false
      | _ :: fraction =>
        let ending := fraction.dropWhile isSpaced
        match splitAtEvery (· == ':') whole with
        | [digits] => isSpacedNumeral digits && hasExponentForm ending
        | digits :: sixtieths =>
          isSpacedNumeral digits && sixtieths.all isSixtieth && ending.isEmpty
        | [] => false

/-! ## Dates -/

/-- A date, with a time of day and a zone if they are given. -/
structure TimeParts where
  year : List Char
  month : List Char
  day : List Char
  /-- Hour, minute and second. -/
  time? : Option (List Char × List Char × List Char)
  fraction : List Char
  /-- Whether the zone is behind, its hours and its minutes; both are empty for the zone `Z`. -/
  zone? : Option (Bool × List Char × List Char)

/-- Reads between `least` and `most` digits. -/
def readDigits? (least most : Nat) (chars : List Char) : Option (List Char × List Char) :=
  let digits := (chars.takeWhile Char.isDigit).take most
  if digits.length < least then none else some (digits, chars.drop digits.length)

/-- Reads a mark. -/
def readMark? (mark : Char) : List Char → Option (List Char)
  | c :: rest => if c == mark then some rest else none
  | [] => none

/-- Reads a zone that reaches to the end. -/
def readZone? (chars : List Char) : Option (Option (Bool × List Char × List Char)) :=
  match chars.dropWhile fun c => c == ' ' || c == '\t' with
  | [] => if chars.isEmpty then some none else none
  | ['Z'] => some (some (false, [], []))
  | c :: rest =>
    if c == '-' || c == '+' then do
      let (hours, rest) ← readDigits? 1 2 rest
      match rest with
      | [] => some (some (c == '-', hours, []))
      | ':' :: rest =>
        let (minutes, rest) ← readDigits? 2 2 rest
        if rest.isEmpty then some (some (c == '-', hours, minutes)) else none
      | _ => none
    else none

/-- Reads a date with whatever follows it. -/
def readTime? (chars : List Char) : Option TimeParts := do
  let (year, rest) ← readDigits? 4 4 chars
  let rest ← readMark? '-' rest
  let (month, rest) ← readDigits? 1 2 rest
  let rest ← readMark? '-' rest
  let (day, rest) ← readDigits? 1 2 rest
  if rest.isEmpty then
    return { year, month, day, time? := none, fraction := [], zone? := none }
  let rest ← match rest with
    | c :: after =>
      if c == 'T' || c == 't' then some after
      else if c == ' ' || c == '\t' then some (after.dropWhile fun d => d == ' ' || d == '\t')
      else none
    | [] => none
  let (hour, rest) ← readDigits? 1 2 rest
  let rest ← readMark? ':' rest
  let (minute, rest) ← readDigits? 2 2 rest
  let rest ← readMark? ':' rest
  let (second, rest) ← readDigits? 2 2 rest
  let (fraction, rest) := match rest with
    | '.' :: after => after.span Char.isDigit
    | _ => ([], rest)
  let zone? ← readZone? rest
  return { year, month, day, time? := some (hour, minute, second), fraction, zone? }

/-- Whether a text has the form of a date.  Alone, a date has two digits for month and day. -/
def hasTimeForm (chars : List Char) : Bool :=
  match readTime? chars with
  | none => false
  | some parts => parts.time?.isSome || (parts.month.length == 2 && parts.day.length == 2)

/-! ## The type of a plain scalar -/

/-- The characters of a text without a line feed at its end.  The forms leave it out of account. -/
def withoutLineFeed (chars : List Char) : List Char :=
  if chars.getLast? == some '\n' then chars.dropLast else chars

/-- The type of a plain scalar, or of another one that is to be taken for plain. -/
def plainTag (text : String) : Tag :=
  let chars := withoutLineFeed text.toList
  if text.toList == ['\n'] then .str
  else if hasNullForm chars then .null
  else if hasTruthForm chars then .bool
  else if hasFloatForm chars then .float
  else if hasIntegerForm chars then .int
  else if chars == ['<', '<'] then .merge
  else if hasTimeForm chars then .timestamp
  else if chars == ['='] then .defaultValue
  else if [['!'], ['&'], ['*']].contains chars then .mark
  else .str

/-! ## Values -/

/-- Multiplies the sum of parts up, each part counting sixty times the one after it. -/
def inSixtieths (parts : List Int) : Int := parts.foldl (fun sum part => 60 * sum + part) 0

/-- An integer in a base, as a text gives it. -/
def readInBase (base : Nat) (chars : List Char) : Except Fault Int :=
  match readInteger base (String.ofList chars) with
  | .ok n => .ok n
  | .error fault => .error (.badInteger fault.message)

/-- The integer without its sign. -/
def readUnsigned (chars : List Char) : Except Fault Int :=
  match chars with
  | [] => .error .emptyNumber
  | ['0'] => .ok 0
  | '0' :: 'b' :: rest => readInBase 2 rest
  | '0' :: 'x' :: rest => readInBase 16 rest
  | '0' :: _ => readInBase 8 chars
  | _ =>
    if chars.contains ':' then
      ((splitAtEvery (· == ':') chars).mapM (readInBase 10)).map inSixtieths
    else readInBase 10 chars

/-- The integer that a text stands for. -/
def readInt (text : String) : Except Fault Int :=
  match text.toList.filter (· != '_') with
  | [] => .error .emptyNumber
  | c :: rest =>
    (readUnsigned (if c == '-' || c == '+' then rest else c :: rest)).map fun n =>
      if c == '-' then -n else n

/-- A floating-point number with blanks around it, as a text gives it. -/
def readFloatPart (chars : List Char) : Except Fault Binary64 :=
  let body := (trimBoth isBlank chars).map fun c =>
    (decimalValue? c).elim c Nat.digitChar
  match Binary64.ofText? body with
  | some x => .ok x
  | none => .error (.badFloat (String.ofList chars))

/-- Adds parts to a sum, the first of them with the given weight and each of the others with sixty
times the weight of the one before it. -/
def addSixtieths : Nat → Binary64 → List Binary64 → Except Fault Binary64
  | _, sum, [] => .ok sum
  | weight, sum, part :: rest =>
    if (Binary64.ofInt weight).isFinite then
      addSixtieths (60 * weight) (sum.add (part.mulNat weight)) rest
    else .error .hugeWeight

/-- The sum of parts, each counting sixty times the one after it, added up from the last part. -/
def floatInSixtieths (parts : List Binary64) : Except Fault Binary64 :=
  addSixtieths 1 (Binary64.zero false) parts.reverse

/-- The floating-point number that a text stands for. -/
def readFloat (text : String) : Except Fault Binary64 :=
  match (lower (String.ofList (text.toList.filter (· != '_')))).toList with
  | [] => .error .emptyNumber
  | c :: rest => do
    let body := if c == '-' || c == '+' then rest else c :: rest
    let magnitude ←
      if body == ".inf".toList then .ok (Binary64.infinite false)
      else if body == ".nan".toList then .ok .nan
      else if body.contains ':' then
        (splitAtEvery (· == ':') body).mapM readFloatPart >>= floatInSixtieths
      else readFloatPart body
    return if c == '-' then magnitude.neg else magnitude

/-- The truth value that a text stands for, in any case. -/
def readTruth (text : String) : Except Fault Bool :=
  let word := lower text
  match truthWords.lookup word with
  | some b => .ok b
  | none => .error (.badTruth word)

end DashboardExport.Yaml
