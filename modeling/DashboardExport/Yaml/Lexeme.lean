import DashboardExport.Text.Encoding
import DashboardExport.Text.Hex
import DashboardExport.Text.Integer
import DashboardExport.Yaml.Token

/-!
# The written forms of YAML tokens

Readers for the tokens that are more than a mark: directives, names, tags, and the
four styles of scalars.  Each takes the characters from its first one on and gives
what it has read with the characters that follow.

A line end inside a flow or plain scalar is folded: alone it becomes a blank, and
of several the first is dropped.  Inside a block scalar lines stay apart unless
the scalar is folded too.

A reader that stops says at which character, so that a fault can be told from one that
only shows because the characters end there.
-/

set_option autoImplicit false

namespace DashboardExport.Yaml

open DashboardExport.Text

/-- A fault with the number of characters from its place on. -/
structure Halt where
  fault : Fault
  left : Nat

/-- Stops at characters that are not well formed. -/
def refuse {α : Type} (chars : List Char) : Except Halt α := .error ⟨.malformed, chars.length⟩

/-- Stops at the first of so many characters that is no hexadecimal digit. -/
def refuseHex {α : Type} (width : Nat) (chars : List Char) : Except Halt α :=
  refuse (chars.drop ((chars.take width).takeWhile fun c => (hexValue? c).isSome).length)

/-! ## Characters -/

/-- Whether a character ends a line. -/
def isBreak (c : Char) : Bool :=
  c == '\n' || c == '\r' || c.toNat == 0x85 || c.toNat == 0x2028 || c.toNat == 0x2029

/-- Whether the text ends here, or a line does, or a blank follows. -/
def atSpace : List Char → Bool
  | [] => true
  | c :: _ => c == ' ' || isBreak c

/-- As `atSpace`, and a tab counts as a blank. -/
def atGap : List Char → Bool
  | '\t' :: _ => true
  | chars => atSpace chars

/-- Whether a line ends here. -/
def atLineEnd : List Char → Bool
  | [] => true
  | c :: _ => isBreak c

/-- Reads a line end if there is one; the ends that are made of controls become line feeds. -/
def readBreak : List Char → List Char × List Char
  | '\r' :: '\n' :: rest => (['\n'], rest)
  | c :: rest =>
    if c == '\r' || c == '\n' || c.toNat == 0x85 then (['\n'], rest)
    else if isBreak c then ([c], rest)
    else ([], c :: rest)
  | [] => ([], [])

/-- Whether a line that starts here separates documents. -/
def isSeparator (chars : List Char) : Bool :=
  (['-', '-', '-'].isPrefixOf chars || ['.', '.', '.'].isPrefixOf chars) && atGap (chars.drop 3)

/-- What is left after blanks and a comment. -/
def skipComment (chars : List Char) : List Char :=
  match chars.dropWhile (· == ' ') with
  | '#' :: rest => rest.dropWhile fun c => !isBreak c
  | rest => rest

/-- Reads the rest of a line that may hold nothing but a comment. -/
def readLineRest (chars : List Char) : Except Halt (List Char) :=
  let rest := skipComment chars
  if atLineEnd rest then .ok (readBreak rest).2 else refuse rest

/-- Whether a character can stand in a name. -/
def isNameChar (c : Char) : Bool := c.isAlphanum || c == '-' || c == '_'

/-! ## Directives, names and tags -/

/-- Reads the name of an anchor or an alias, from behind its mark. -/
def readName (chars : List Char) : Except Halt (String × List Char) :=
  let (name, rest) := chars.span isNameChar
  let ends := match rest with
    | c :: _ => atGap rest || ['?', ':', ',', ']', '}', '%', '@', '`'].contains c
    | [] => true
  if name.isEmpty || !ends then refuse rest else .ok (String.ofList name, rest)

/-- Reads a tag handle: exclamation marks with a name between them, or one alone before a blank. -/
def readHandle : List Char → Except Halt (String × List Char)
  | '!' :: ' ' :: rest => .ok ("!", ' ' :: rest)
  | '!' :: rest =>
    let (name, rest) := rest.span isNameChar
    match rest with
    | '!' :: rest' => .ok (String.ofList ('!' :: (name ++ ['!'])), rest')
    | _ => refuse rest
  | rest => refuse rest

/-- The bytes of the escapes at the front. -/
def readEscapedBytes : Nat → List Char → Except Halt (List UInt8 × List Char)
  | fuel + 1, '%' :: rest =>
    match readHex 2 0 rest with
    | none => refuseHex 2 rest
    | some (byte, rest') => do
      let (bytes, rest'') ← readEscapedBytes fuel rest'
      return (UInt8.ofNat byte :: bytes, rest'')
  | _, rest => .ok ([], rest)

/-- Whether a character can stand in a tag as it is. -/
def isTagChar (c : Char) : Bool :=
  c.isAlphanum || ['-', ';', '/', '?', ':', '@', '&', '=', '+', '$', ',', '_', '.', '!', '~', '*',
    '\'', '(', ')', '[', ']'].contains c

/-- The characters of a tag, escapes resolved. -/
def readTagChars : Nat → List Char → Except Halt (List Char × List Char)
  | 0, rest => .ok ([], rest)
  | fuel + 1, chars =>
    match chars with
    | '%' :: _ => do
      let (bytes, rest) ← readEscapedBytes chars.length chars
      match strict? (decodeUtf8 bytes) with
      | none => refuse rest
      | some text => do
        let (more, rest') ← readTagChars fuel rest
        return (text.toList ++ more, rest')
    | c :: rest =>
      if isTagChar c then do
        let (more, rest') ← readTagChars fuel rest
        return (c :: more, rest')
      else .ok ([], chars)
    | [] => .ok ([], [])

/-- Reads a tag without its handle; it cannot be empty. -/
def readTagSuffix (chars : List Char) : Except Halt (String × List Char) := do
  let (suffix, rest) ← readTagChars chars.length chars
  if rest.length == chars.length then refuse rest else return (String.ofList suffix, rest)

/-- Reads a tag, from behind its exclamation mark. -/
def readTag (chars : List Char) : Except Halt (Token × List Char) := do
  let (tag, rest) ← match chars with
    | '<' :: rest => do
      let (suffix, rest) ← readTagSuffix rest
      match rest with
      | '>' :: rest' => pure (Token.tag none suffix, rest')
      | _ => refuse rest
    | _ =>
      if atGap chars then pure (Token.tag none "!", chars)
      else if (chars.takeWhile fun c => c != ' ' && !isBreak c).contains '!' then do
        let (handle, rest) ← readHandle ('!' :: chars)
        let (suffix, rest) ← readTagSuffix rest
        pure (Token.tag (some handle) suffix, rest)
      else do
        let (suffix, rest) ← readTagSuffix chars
        pure (Token.tag (some "!") suffix, rest)
  if atSpace rest then return (tag, rest) else refuse rest

/-- Reads a number in a version. -/
def readVersionNumber (chars : List Char) : Except Halt (Nat × List Char) :=
  let (digits, rest) := chars.span Char.isDigit
  if digits.isEmpty then refuse rest
  else
    match readInteger 10 (String.ofList digits) with
    | .ok number => .ok (number.toNat, rest)
    | .error fault => .error ⟨.badInteger fault.message, rest.length⟩

/-- Reads what a version directive declares. -/
def readVersion (chars : List Char) : Except Halt (Directive × List Char) := do
  let (major, rest) ← readVersionNumber (chars.dropWhile (· == ' '))
  match rest with
  | '.' :: rest => do
    let (_, rest) ← readVersionNumber rest
    if atSpace rest then return (.version major, rest) else refuse rest
  | _ => refuse rest

/-- Reads what a tag directive declares. -/
def readTagDirective (chars : List Char) : Except Halt (Directive × List Char) := do
  let (handle, rest) ← readHandle (chars.dropWhile (· == ' '))
  if rest.head? != some ' ' then refuse rest
  else
    let (beginning, rest) ← readTagSuffix (rest.dropWhile (· == ' '))
    if atSpace rest then return (.tag handle beginning, rest) else refuse rest

/-- Reads a directive, from behind its percent sign, with its whole line. -/
def readDirective (chars : List Char) : Except Halt (Directive × List Char) := do
  let (name, rest) := chars.span isNameChar
  if name.isEmpty || !atSpace rest then refuse rest
  else
    let (directive, rest) ←
      if name == "YAML".toList then readVersion rest
      else if name == "TAG".toList then readTagDirective rest
      else pure (Directive.other, rest.dropWhile fun c => !isBreak c)
    return (directive, ← readLineRest rest)

/-! ## Quoted scalars -/

/-- Reads the line ends from the start of a line on, with the blanks around them, up to the next
character that counts. -/
def readFoldedBreaks : Bool → List Char → Except Halt (List Char × List Char)
  | _, [] => .ok ([], [])
  | lineStart, '\r' :: '\n' :: rest =>
    if lineStart && isSeparator ('\r' :: '\n' :: rest) then refuse ('\r' :: '\n' :: rest)
    else do
      let (breaks, rest') ← readFoldedBreaks true rest
      return ('\n' :: breaks, rest')
  | lineStart, c :: rest =>
    if lineStart && isSeparator (c :: rest) then refuse (c :: rest)
    else if c == ' ' || c == '\t' then readFoldedBreaks false rest
    else if isBreak c then do
      let (breaks, rest') ← readFoldedBreaks true rest
      return ((readBreak [c]).1 ++ breaks, rest')
    else .ok ([], c :: rest)

/-- What a line end and the line ends after it are folded to. -/
def folded (lineBreak breaks : List Char) : List Char :=
  if lineBreak != ['\n'] then lineBreak ++ breaks
  else if breaks.isEmpty then [' ']
  else breaks

/-- The character of a one-letter escape. -/
def escapedChar? (c : Char) : Option Char :=
  [('0', 0x00), ('a', 0x07), ('b', 0x08), ('t', 0x09), ('\t', 0x09), ('n', 0x0A), ('v', 0x0B),
    ('f', 0x0C), ('r', 0x0D), ('e', 0x1B), (' ', 0x20), ('"', 0x22), ('\\', 0x5C), ('/', 0x2F),
    ('N', 0x85), ('_', 0xA0), ('L', 0x2028), ('P', 0x2029)].lookup c |>.map Char.ofNat

/-- The number of digits in an escape that gives a code point. -/
def escapeWidth? (c : Char) : Option Nat := [('x', 2), ('u', 4), ('U', 8)].lookup c

/-- Reads an escape, from behind its backslash. -/
def readEscape (chars : List Char) : Except Halt (List Char × List Char) :=
  match chars with
  | [] => refuse []
  | c :: rest =>
    match escapedChar? c, escapeWidth? c with
    | some char, _ => .ok ([char], rest)
    | none, some width =>
      match readHex width 0 rest with
      | none => refuseHex width rest
      | some (code, rest') =>
        if code < 0x110000 then .ok ([charOfCode code], rest')
        else .error ⟨.escapeOutOfRange code, rest.length⟩
    | none, none =>
      if isBreak c then readFoldedBreaks true (readBreak chars).2 else refuse chars

/-- Reads a quoted scalar, from behind its opening quotation mark.  The characters read so far are
kept in reverse, and the blanks since the last of them apart, because they count only if more
follows on their line. -/
def readQuoted (double : Bool) :
    Nat → List Char → List Char → List Char → Except Halt (String × List Char)
  | 0, _, _, rest => refuse rest
  | _, _, _, [] => refuse []
  | fuel + 1, read, blanks, c :: rest =>
    if c == ' ' || c == '\t' then readQuoted double fuel read (c :: blanks) rest
    else if isBreak c then do
      let (lineBreak, rest') := readBreak (c :: rest)
      let (breaks, rest'') ← readFoldedBreaks true rest'
      readQuoted double fuel ((folded lineBreak breaks).reverse ++ read) [] rest''
    else
      let read := blanks ++ read
      if double && c == '"' then .ok (String.ofList read.reverse, rest)
      else if double && c == '\\' then do
        let (chars, rest') ← readEscape rest
        readQuoted double fuel (chars.reverse ++ read) [] rest'
      else if !double && c == '\'' then
        match rest with
        | '\'' :: rest' => readQuoted double fuel ('\'' :: read) [] rest'
        | _ => .ok (String.ofList read.reverse, rest)
      else readQuoted double fuel (c :: read) [] rest

/-! ## Plain scalars -/

/-- The characters at the front that belong to a plain scalar on one line. -/
def plainRun (flow : Bool) : List Char → List Char
  | [] => []
  | c :: rest =>
    if c == ' ' || c == '\t' || isBreak c then []
    else if c == ':' && (atGap rest ||
        (flow && rest.head?.any fun d => [',', '[', ']', '{', '}'].contains d)) then []
    else if flow && [',', '?', '[', ']', '{', '}'].contains c then []
    else c :: plainRun flow rest

/-- The blanks and line ends between two parts of a plain scalar. -/
structure PlainGap where
  /-- What they are folded to; nothing if the scalar cannot go on. -/
  text : List Char
  /-- The indentation of the line after them, if they hold a line end. -/
  column? : Option Nat
  rest : List Char

/-- The line ends from the start of a line on, with the blanks before each, up to the next character
that counts: the line ends, the number of blanks before that character, and what follows.  There are
none if a separator of documents comes first. -/
def plainBreaks : Nat → List Char → Option (List Char) × Nat × List Char
  | column, [] => (some [], column, [])
  | column, c :: rest =>
    if c == ' ' then plainBreaks (column + 1) rest
    else if c == '\r' && rest.head? == some '\n' then plainBreaks column rest
    else if isBreak c then
      if isSeparator rest then (none, 0, rest)
      else
        match plainBreaks 0 rest with
        | (breaks, column', rest') => (breaks.map ((readBreak [c]).1 ++ ·), column', rest')
    else (some [], column, c :: rest)

/-- Reads the gap after a part of a plain scalar. -/
def plainGap (chars : List Char) : PlainGap :=
  let rest := chars.dropWhile (· == ' ')
  if rest.isEmpty || !atLineEnd rest then
    { text := chars.takeWhile (· == ' '), column? := none, rest }
  else
    let (lineBreak, rest) := readBreak rest
    if isSeparator rest then { text := [], column? := some 0, rest }
    else
      match plainBreaks 0 rest with
      | (none, column, rest) => { text := [], column? := some column, rest }
      | (some breaks, column, rest) =>
        { text := folded lineBreak breaks, column? := some column, rest }

/-- A plain scalar with what follows, and whether it was left at the start of a line. -/
structure PlainScalar where
  text : String
  rest : List Char
  atNewLine : Bool

/-- Reads a plain scalar.  Outside flow collections it goes on only on lines that are indented
enough.  The characters read so far are kept in reverse, and the last gap apart. -/
def readPlain (flow : Bool) (indentation : Int) :
    Nat → List Char → PlainGap → PlainScalar
  | 0, read, gap => ⟨String.ofList read.reverse, gap.rest, gap.column?.isSome⟩
  | fuel + 1, read, gap =>
    let run := plainRun flow gap.rest
    if run.isEmpty || gap.rest.head? == some '#' then
      ⟨String.ofList read.reverse, gap.rest, gap.column?.isSome⟩
    else
      let next := plainGap (gap.rest.drop run.length)
      let read := run.reverse ++ (gap.text.reverse ++ read)
      if next.text.isEmpty || next.rest.head? == some '#' ||
          (!flow && next.column?.any fun column => (column : Int) < indentation) then
        ⟨String.ofList read.reverse, next.rest, next.column?.isSome⟩
      else readPlain flow indentation fuel read next

/-! ## Block scalars -/

/-- What becomes of the line ends at the end of a block scalar. -/
inductive Chomping where
  /-- One is kept. -/
  | clip
  | keep
  | strip
  deriving DecidableEq

/-- Reads a chomping indicator. -/
def readChomping : List Char → Option (Chomping × List Char)
  | '+' :: rest => some (.keep, rest)
  | '-' :: rest => some (.strip, rest)
  | _ => none

/-- Reads an indentation indicator, which cannot be zero. -/
def readIndicator : List Char → Except Halt (Option Nat × List Char)
  | c :: rest =>
    if c == '0' then refuse (c :: rest)
    else if c.isDigit then .ok (some (c.toNat - '0'.toNat), rest)
    else .ok (none, c :: rest)
  | [] => .ok (none, [])

/-- Reads the indicators of a block scalar, which may stand in either order. -/
def readIndicators (chars : List Char) : Except Halt ((Chomping × Option Nat) × List Char) := do
  let (indicators, rest) ← match readChomping chars with
    | some (chomping, rest) => do
      let (indentation, rest) ← readIndicator rest
      pure ((chomping, indentation), rest)
    | none => do
      let (indentation, rest) ← readIndicator chars
      match indentation, readChomping rest with
      | some _, some (chomping, rest') => pure ((chomping, indentation), rest')
      | _, _ => pure ((Chomping.clip, indentation), rest)
  if atSpace rest then return (indicators, rest) else refuse rest

/-- The empty lines at the start of a block scalar whose indentation is not given: their line ends,
the greatest number of blanks on one of these lines or before the first character that counts, the
number of blanks before that character, and what follows. -/
def leadingLines : Nat → Nat → List Char → List Char × Nat × Nat × List Char
  | greatest, column, [] => ([], greatest, column, [])
  | greatest, column, c :: rest =>
    if c == ' ' then leadingLines (max greatest (column + 1)) (column + 1) rest
    else if c == '\r' && rest.head? == some '\n' then leadingLines greatest column rest
    else if isBreak c then
      match leadingLines greatest 0 rest with
      | (breaks, greatest', column', rest') =>
        ((readBreak [c]).1 ++ breaks, greatest', column', rest')
    else ([], greatest, column, c :: rest)

/-- The empty lines inside a block scalar of a known indentation: their line ends, the number of
blanks before the next character that counts, up to the indentation, and what follows. -/
def innerLines (indentation : Nat) : Nat → List Char → List Char × Nat × List Char
  | column, [] => ([], column, [])
  | column, c :: rest =>
    if c == ' ' && column < indentation then innerLines indentation (column + 1) rest
    else if c == '\r' && rest.head? == some '\n' then innerLines indentation column rest
    else if isBreak c then
      match innerLines indentation 0 rest with
      | (breaks, column', rest') => ((readBreak [c]).1 ++ breaks, column', rest')
    else ([], column, c :: rest)

/-- Whether a line starts with a blank. -/
def startsBlank (chars : List Char) : Bool :=
  match chars with
  | c :: _ => c == ' ' || c == '\t'
  | [] => false

/-- Reads the lines of a block scalar: its characters in reverse, the end of its last line, the line
ends after that, and what follows. -/
def readBlockLines (fold : Bool) (indentation : Nat) :
    Nat → List Char → List Char → List Char → List Char × List Char × List Char × List Char
  | 0, read, breaks, chars => (read, [], breaks, chars)
  | fuel + 1, read, breaks, chars =>
    let line := chars.takeWhile fun c => !isBreak c
    let read := line.reverse ++ (breaks.reverse ++ read)
    let (lineBreak, rest) := readBreak (chars.drop line.length)
    let (breaks, column, rest) := innerLines indentation 0 rest
    if column == indentation && !rest.isEmpty then
      let joint :=
        if fold && lineBreak == ['\n'] && !startsBlank chars && !startsBlank rest then
          if breaks.isEmpty then [' '] else []
        else lineBreak
      readBlockLines fold indentation fuel (joint.reverse ++ read) breaks rest
    else (read, lineBreak, breaks, rest)

/-- Reads a block scalar, from behind its mark, given the indentation of what holds it. -/
def readBlock (fold : Bool) (outer : Int) (chars : List Char) :
    Except Halt (String × List Char) := do
  let ((chomping, indicator), rest) ← readIndicators chars
  let rest ← readLineRest rest
  let least := (max (outer + 1) 1).toNat
  let (indentation, breaks, column, rest) := match indicator with
    | some given =>
      let indentation := least + given - 1
      let (breaks, column, rest) := innerLines indentation 0 rest
      (indentation, breaks, column, rest)
    | none =>
      let (breaks, greatest, column, rest) := leadingLines 0 0 rest
      (max least greatest, breaks, column, rest)
  let (read, lineBreak, breaks, rest) :=
    if column == indentation && !rest.isEmpty then
      readBlockLines fold indentation rest.length [] breaks rest
    else ([], [], breaks, rest)
  let tail := match chomping with
    | .clip => lineBreak
    | .keep => lineBreak ++ breaks
    | .strip => []
  return (String.ofList (read.reverse ++ tail), rest)

end DashboardExport.Yaml
