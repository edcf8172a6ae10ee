import DashboardExport.Service.LabelCharacter
import DashboardExport.Text.Blank
import DashboardExport.Text.Composition
import DashboardExport.Text.Direction
import DashboardExport.Text.Joining
import DashboardExport.Text.Lowercase
import DashboardExport.Text.Punycode
import DashboardExport.Text.Script

/-!
# Labels

A host name consists of labels between dots.  A label is composed, it holds letters,
digits, marks and hyphens inside, and a few signs beside characters of their script.
Where a part of it is written from right to left, all of it is.

A label outside ASCII is sent in its ASCII form: `xn--` and the label in Punycode.
A label that is given in this form stands for the label that it spells, which has to
keep the same rules (`Label.asciiForm?`).
-/

set_option autoImplicit false

namespace DashboardExport.Service.Label

open DashboardExport.Text

/-! ## Rules -/

/-- Whether a label neither starts nor ends with a hyphen, nor has two where the ASCII form has. -/
def hyphensFit (label : List Char) : Bool :=
  label.head? != some '-' && label.getLast? != some '-' && (label.drop 2).take 2 != ['-', '-']

/-- Whether a letter that is joined to the next one comes before, up to marks; the characters
before are given from the last to the first. -/
def followsJoined (before : List Char) : Bool :=
  ((before.dropWhile isJoinedThrough).head?.map joinsNext).getD false

/-- Whether a letter that is joined to the one before comes after, up to marks. -/
def precedesJoined (after : List Char) : Bool :=
  ((after.dropWhile isJoinedThrough).head?.map joinsBefore).getD false

/-- Whether the last character before is a sign that takes a vowel away. -/
def followsVowelKiller (before : List Char) : Bool :=
  before.head?.any fun c => combiningClass c == vowelKillerClass

/-- Whether a character is an Arabic digit. -/
def isArabicDigit (c : Char) : Bool := 0x0660 ≤ c.toNat && c.toNat ≤ 0x0669

/-- Whether a character is an Eastern Arabic digit. -/
def isEasternDigit (c : Char) : Bool := 0x06F0 ≤ c.toNat && c.toNat ≤ 0x06F9

/-- Whether a character of a label can stand between those before it, given from the last to the
first, and those after it. -/
def charFits (before : List Char) (c : Char) (after : List Char) : Bool :=
  isLabelChar c ||
    match c.toNat with
    | 0x00B7 => before.head? == some 'l' && after.head? == some 'l'
    | 0x0375 => after.head?.any isGreek
    | 0x05F3 | 0x05F4 => before.head?.any isHebrew
    | 0x200C => followsVowelKiller before || (followsJoined before && precedesJoined after)
    | 0x200D => followsVowelKiller before
    | 0x30FB => (before ++ after).any fun d => d != c && isJapanese d
    | _ =>
      (isArabicDigit c && !(before ++ after).any isEasternDigit) ||
        (isEasternDigit c && !(before ++ after).any isArabicDigit)

/-- Whether all characters of a label after the first ones fit. -/
def charsFit (before : List Char) : List Char → Bool
  | [] => true
  | c :: after => charFits before c after && charsFit (c :: before) after

/-- Whether a direction makes a label one that is written from right to left. -/
def turnsAround (direction : Direction) : Bool :=
  [.rightToLeft, .arabicLetter, .arabicDigit].contains direction

/-- Whether a label is written in one direction: from right to left it starts with a letter, ends
with a letter or a digit up to marks, and has digits of one kind. -/
def directionsFit (label : List Char) : Bool :=
  let directions := label.map direction
  let last? := (directions.reverse.dropWhile (· == .nonspacing)).head?
  !directions.any turnsAround ||
    (directions.head?.any [.rightToLeft, .arabicLetter].contains &&
      !directions.contains .leftToRight &&
      last?.any (fun last => turnsAround last || last == .europeanDigit) &&
      !(directions.contains .europeanDigit && directions.contains .arabicDigit))

/-- Whether a text keeps the rules for labels. -/
def isValid (label : List Char) : Bool :=
  !label.isEmpty && isComposed label && hyphensFit label && !label.head?.any isMark &&
    charsFit [] label && directionsFit label

/-! ## ASCII form -/

/-- What the ASCII form of a label begins with. -/
def mark : List Char := "xn--".toList

/-- The greatest length of a label in its ASCII form. -/
def lengthLimit : Nat := 63

/-- The label that an ASCII text stands for. -/
def spelled? (text : List Char) : Option (List Char) :=
  if mark.isPrefixOf text then
    let written := text.drop mark.length
    if written.isEmpty || written.getLast? == some '-' then none else Punycode.decode? written
  else some text

/-- The ASCII form of a label. -/
def asciiForm? (label : List Char) : Option (List Char) :=
  if lengthLimit < label.length then none
  else if label.all Punycode.isBasic then
    match spelled? label with
    | some spelled => if isValid spelled then some label else none
    | none => none
  else
    let form := mark ++ Punycode.encode label
    if isValid label && form.length ≤ lengthLimit then some form else none

/-- The dots between labels. -/
def isDot (c : Char) : Bool :=
  ['.', Char.ofNat 0x3002, Char.ofNat 0xFF0E, Char.ofNat 0xFF61].contains c

/-- The greatest length of a host name in its ASCII form, without a dot at its end. -/
def nameLengthLimit : Nat := 253

/-- The ASCII form of a host name; a dot may stand at its end. -/
def nameForm? (name : List Char) : Option (List Char) := do
  let labels := splitAtEvery isDot name
  let isClosed := labels.getLast? == some []
  let forms ← (if isClosed then labels.dropLast else labels).mapM asciiForm?
  let form := ['.'].intercalate (if isClosed then forms ++ [[]] else forms)
  if form.length ≤ nameLengthLimit + (if isClosed then 1 else 0) then some form else none

end DashboardExport.Service.Label
