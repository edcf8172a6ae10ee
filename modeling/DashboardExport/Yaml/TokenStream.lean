import DashboardExport.Yaml.Lexeme

/-!
# The tokens of a YAML text

Besides the marks that are written, a text has marks that its layout stands for.
Every indentation of a block collection opens it and the end of the indentation
closes it.  A key is only known to be one when the colon after it is reached: so
each place where a key can start leaves an empty slot among the tokens, and the
colon fills the last open slot of its flow level.  A slot stays open on one line and
for `keyReach` characters.

A fault ends the tokens.  The reader of the tokens never looks past an open slot, so
a fault hides the tokens from the first slot that was open.

A file is read in blocks, and one of them can be bad.  Then only the beginning of its text
is there, and the tokens end at the first one that reaches to the end of it: what the
block is like decides the fault.
-/

set_option autoImplicit false

namespace DashboardExport.Yaml

/-- The number of characters a key without a mark of its own may have. -/
def keyReach : Nat := 1024

/-- A place in a text with what follows it. -/
structure Cursor where
  rest : List Char
  index : Nat
  line : Nat
  column : Int

namespace Cursor

/-- Whether a character, given what follows it, ends a line. -/
def endsLine (c : Char) (rest : List Char) : Bool :=
  isBreak c && !(c == '\r' && rest.head? == some '\n')

/-- The place after some further characters.  A byte order mark takes no column. -/
def advance (cursor : Cursor) : Nat → Cursor
  | 0 => cursor
  | count + 1 =>
    match cursor.rest with
    | [] => cursor
    | c :: rest =>
      let next : Cursor :=
        if endsLine c rest then
          { rest, index := cursor.index + 1, line := cursor.line + 1, column := 0 }
        else
          { rest, index := cursor.index + 1, line := cursor.line
            column := if c.toNat == 0xFEFF then cursor.column else cursor.column + 1 }
      advance next count

/-- The place that a reader has come to. -/
def moveTo (cursor : Cursor) (rest : List Char) : Cursor :=
  cursor.advance (cursor.rest.length - rest.length)

end Cursor

/-- An open slot: its place among the tokens and in the text. -/
structure KeySlot where
  slot : Nat
  /-- A key is the only thing that can stand here. -/
  required : Bool
  index : Nat
  line : Nat
  column : Int

/-- What is known of a text up to a place in it. -/
structure Layout where
  cursor : Cursor
  flowLevel : Nat
  /-- The indentations of the open block collections, the innermost first. -/
  indentations : List Int
  /-- Whether a key can start here. -/
  keyAllowed : Bool
  /-- The open slots, at most one for a flow level. -/
  openSlots : List (Nat × KeySlot)
  /-- The tokens and slots so far. -/
  tokens : Array (List Token)
  finished : Bool

namespace Layout

def start (chars : List Char) : Layout where
  cursor := { rest := chars, index := 0, line := 0, column := 0 }
  flowLevel := 0
  indentations := []
  keyAllowed := true
  openSlots := []
  tokens := #[]
  finished := false

/-- The indentation of the innermost open block collection. -/
def indentation (layout : Layout) : Int := layout.indentations.headD (-1)

def push (layout : Layout) (token : Token) : Layout :=
  { layout with tokens := layout.tokens.push [token] }

/-- The layout at the place that a reader has come to. -/
def moveTo (layout : Layout) (rest : List Char) : Layout :=
  { layout with cursor := layout.cursor.moveTo rest }

def advance (layout : Layout) (count : Nat) : Layout :=
  { layout with cursor := layout.cursor.advance count }

def allowKey (layout : Layout) (allowed : Bool) : Layout := { layout with keyAllowed := allowed }

/-- Stops where nothing fits. -/
def refuse {α : Type} (layout : Layout) : Except Halt α := Yaml.refuse layout.cursor.rest

/-! ## Slots -/

/-- Whether a slot is out of reach. -/
def isStale (layout : Layout) (slot : KeySlot) : Bool :=
  slot.line != layout.cursor.line || keyReach < layout.cursor.index - slot.index

/-- Gives up the slots that are out of reach; one that has to be filled is a fault then. -/
def dropStale (layout : Layout) : Except Halt Layout :=
  if layout.openSlots.any fun entry => layout.isStale entry.2 && entry.2.required then
    layout.refuse
  else
    .ok { layout with
      openSlots := layout.openSlots.filter fun entry => !layout.isStale entry.2 }

/-- Gives up the slot of the current flow level. -/
def dropSlot (layout : Layout) : Except Halt Layout :=
  match layout.openSlots.lookup layout.flowLevel with
  | none => .ok layout
  | some slot =>
    if slot.required then layout.refuse
    else
      .ok { layout with
        openSlots := layout.openSlots.filter fun entry => entry.1 != layout.flowLevel }

/-- Leaves a slot where a key can start. -/
def openSlot (layout : Layout) : Except Halt Layout :=
  if layout.keyAllowed then do
    let layout ← layout.dropSlot
    let slot : KeySlot :=
      { slot := layout.tokens.size
        required := layout.flowLevel == 0 && layout.indentation == layout.cursor.column
        index := layout.cursor.index
        line := layout.cursor.line
        column := layout.cursor.column }
    return { layout with
      tokens := layout.tokens.push []
      openSlots := (layout.flowLevel, slot) :: layout.openSlots }
  else .ok layout

/-! ## Indentation -/

/-- Closes the block collections that are indented more than a column. -/
def closeBlocks (layout : Layout) (column : Int) : Layout :=
  if layout.flowLevel == 0 then
    let closed := layout.indentations.takeWhile (column < ·)
    { layout with
      indentations := layout.indentations.drop closed.length
      tokens := closed.foldl (fun tokens _ => tokens.push [.blockEnd]) layout.tokens }
  else layout

/-- The indentations with one more, if the column is further in. -/
def indent? (layout : Layout) (column : Int) : Option (List Int) :=
  if layout.indentation < column then some (column :: layout.indentations) else none

/-- Opens a block collection at the current column unless it is open. -/
def openBlock (layout : Layout) (opening : Token) : Layout :=
  match layout.indent? layout.cursor.column with
  | some indentations => { layout with indentations }.push opening
  | none => layout

/-! ## Tokens -/

/-- What is left after blanks, comments and line ends, and whether there was a line end. -/
def skipLines : Nat → Bool → List Char → Bool × List Char
  | 0, ended, chars => (ended, chars)
  | fuel + 1, ended, chars =>
    let rest := skipComment chars
    match rest with
    | c :: _ => if isBreak c then skipLines fuel true (readBreak rest).2 else (ended, rest)
    | [] => (ended, [])

/-- The layout before the next token. -/
def toNextToken (layout : Layout) : Layout :=
  let chars := match layout.cursor.index, layout.cursor.rest with
    | 0, c :: rest => if c.toNat == 0xFEFF then rest else c :: rest
    | _, chars => chars
  let (ended, rest) := skipLines (chars.length + 1) false chars
  let moved := layout.moveTo rest
  if ended && layout.flowLevel == 0 then moved.allowKey true else moved

/-- Closes everything before a mark between documents. -/
def closeAll (layout : Layout) : Except Halt Layout := do
  let layout ← (layout.closeBlocks (-1)).dropSlot
  return layout.allowKey false

/-- The end of the text. -/
def finish (layout : Layout) : Except Halt Layout := do
  let layout ← layout.closeAll
  return { layout.push .streamEnd with openSlots := [], finished := true }

/-- A line that separates documents. -/
def separator (layout : Layout) (token : Token) : Except Halt Layout := do
  let layout ← layout.closeAll
  return (layout.advance 3).push token

def directive (layout : Layout) : Except Halt Layout := do
  let layout ← layout.closeAll
  let (directive, rest) ← readDirective (layout.cursor.rest.drop 1)
  return (layout.moveTo rest).push (.directive directive)

def flowStart (layout : Layout) (token : Token) : Except Halt Layout := do
  let layout ← layout.openSlot
  return ({ layout with flowLevel := layout.flowLevel + 1 }.allowKey true).advance 1 |>.push token

/-- The end of a flow collection; one that was never begun is a fault. -/
def flowEnd (layout : Layout) (token : Token) : Except Halt Layout := do
  let layout ← layout.dropSlot
  if layout.flowLevel == 0 then layout.refuse
  else
    let closed := { layout with flowLevel := layout.flowLevel - 1 }
    return ((closed.allowKey false).advance 1).push token

def flowEntry (layout : Layout) : Except Halt Layout := do
  let layout ← (layout.allowKey true).dropSlot
  return (layout.advance 1).push .flowEntry

def blockEntry (layout : Layout) : Except Halt Layout := do
  if layout.flowLevel == 0 && !layout.keyAllowed then layout.refuse
  else
    let opened := if layout.flowLevel == 0 then layout.openBlock .blockSequenceStart else layout
    let layout ← (opened.allowKey true).dropSlot
    return (layout.advance 1).push .blockEntry

/-- A key with a mark of its own. -/
def explicitKey (layout : Layout) : Except Halt Layout := do
  if layout.flowLevel == 0 && !layout.keyAllowed then layout.refuse
  else
    let opened := if layout.flowLevel == 0 then layout.openBlock .blockMappingStart else layout
    let layout ← (opened.allowKey (layout.flowLevel == 0)).dropSlot
    return (layout.advance 1).push .key

/-- The colon after a key: it fills the open slot, and the key opens a block mapping if it is
further in than the open block collections. -/
def fillSlot (layout : Layout) (slot : KeySlot) : Layout :=
  let layout := { layout with
    openSlots := layout.openSlots.filter fun entry => entry.1 != layout.flowLevel }
  let filled := match layout.flowLevel, layout.indent? slot.column with
    | 0, some indentations =>
      { layout with
        indentations
        tokens := layout.tokens.setIfInBounds slot.slot [.blockMappingStart, .key] }
    | _, _ => { layout with tokens := layout.tokens.setIfInBounds slot.slot [.key] }
  (filled.allowKey false).advance 1 |>.push .value

/-- A colon that belongs to a key with a mark of its own, or to none. -/
def freeValue (layout : Layout) : Except Halt Layout := do
  if layout.flowLevel == 0 && !layout.keyAllowed then layout.refuse
  else
    let opened := if layout.flowLevel == 0 then layout.openBlock .blockMappingStart else layout
    let layout ← (opened.allowKey (layout.flowLevel == 0)).dropSlot
    return (layout.advance 1).push .value

def value (layout : Layout) : Except Halt Layout :=
  match layout.openSlots.lookup layout.flowLevel with
  | some slot => .ok (layout.fillSlot slot)
  | none => layout.freeValue

/-- A token that a key can start with, read from behind its first character. -/
def keyStart (layout : Layout) (read : List Char → Except Halt (Token × List Char)) :
    Except Halt Layout := do
  let layout ← layout.openSlot
  let (token, rest) ← read (layout.cursor.rest.drop 1)
  return ((layout.allowKey false).moveTo rest).push token

def plain (layout : Layout) : Except Halt Layout := do
  let layout ← layout.openSlot
  let chars := layout.cursor.rest
  let scalar := readPlain (0 < layout.flowLevel) (layout.indentation + 1) (chars.length + 1) []
    { text := [], column? := none, rest := chars }
  return ((layout.allowKey scalar.atNewLine).moveTo scalar.rest).push (.scalar scalar.text true)

def block (layout : Layout) (fold : Bool) : Except Halt Layout := do
  let layout ← (layout.allowKey true).dropSlot
  let (text, rest) ← readBlock fold layout.indentation (layout.cursor.rest.drop 1)
  return (layout.moveTo rest).push (.scalar text false)

/-- The characters that no plain scalar starts with. -/
def isIndicator (c : Char) : Bool :=
  ['-', '?', ':', ',', '[', ']', '{', '}', '#', '&', '*', '!', '|', '>', '\'', '"', '%', '@',
    '`'].contains c

/-- Whether a plain scalar starts here.  A hyphen, a question mark and a colon start one if no gap
follows. -/
def startsPlain (flow : Bool) (c : Char) (rest : List Char) : Bool :=
  !(isIndicator c || atGap [c]) ||
    (!atGap rest && (c == '-' || (!flow && (c == '?' || c == ':'))))

/-- Reads the next token.  Slots can get out of reach before it, and on the way to it. -/
def next (layout : Layout) : Except Halt Layout := do
  let layout ← layout.dropStale
  let layout ← layout.toNextToken.dropStale
  let layout := layout.closeBlocks layout.cursor.column
  let chars := layout.cursor.rest
  let flow := decide (0 < layout.flowLevel)
  let lineStart := layout.cursor.column == 0
  match chars with
  | [] => layout.finish
  | c :: rest =>
    if c == '%' && lineStart then layout.directive
    else if c == '-' && lineStart && isSeparator chars then layout.separator .documentStart
    else if c == '.' && lineStart && isSeparator chars then layout.separator .documentEnd
    else if c == '[' then layout.flowStart .flowSequenceStart
    else if c == '{' then layout.flowStart .flowMappingStart
    else if c == ']' then layout.flowEnd .flowSequenceEnd
    else if c == '}' then layout.flowEnd .flowMappingEnd
    else if c == ',' then layout.flowEntry
    else if c == '-' && atGap rest then layout.blockEntry
    else if c == '?' && (flow || atGap rest) then layout.explicitKey
    else if c == ':' && (flow || atGap rest) then layout.value
    else if c == '*' then
      layout.keyStart fun chars => (readName chars).map fun r => (.alias r.1, r.2)
    else if c == '&' then
      layout.keyStart fun chars => (readName chars).map fun r => (.anchor r.1, r.2)
    else if c == '!' then layout.keyStart readTag
    else if c == '|' && !flow then layout.block false
    else if c == '>' && !flow then layout.block true
    else if c == '\'' || c == '"' then
      layout.keyStart fun chars =>
        (readQuoted (c == '"') (chars.length + 1) [] [] chars).map fun r =>
          (.scalar r.1 false, r.2)
    else if startsPlain flow c rest then layout.plain
    else layout.refuse

/-- The tokens before the first open slot. -/
def settled (layout : Layout) : List Token :=
  let first := (layout.openSlots.filter fun entry => !layout.isStale entry.2).foldl
    (fun least entry => min least entry.2.slot) layout.tokens.size
  (layout.tokens.toList.take first).flatten

end Layout

/-- The tokens of a text up to its end or to a fault. -/
structure TokenStream where
  tokens : List Token
  fault? : Option Fault

/-- Reads tokens until the text ends or a fault is found.  If only the beginning of the text is
there, the fault that ends it is given, and one character stands for what is not known. -/
def readTokens (stop? : Option Fault) : Nat → Layout → TokenStream
  | 0, layout => ⟨layout.settled, some .malformed⟩
  | fuel + 1, layout =>
    match layout.next, stop? with
    | .error halt, none => ⟨layout.settled, some halt.fault⟩
    | .error halt, some stop => ⟨layout.settled, some (if halt.left ≤ 1 then stop else halt.fault)⟩
    | .ok next, none =>
      if next.finished then ⟨next.tokens.toList.flatten, none⟩ else readTokens none fuel next
    | .ok next, some stop =>
      match next.cursor.rest with
      | _ :: _ :: _ => readTokens stop? fuel next
      | _ => ⟨layout.settled, some stop⟩

/-- Whether a character can stand in a text. -/
def isAllowed (c : Char) : Bool :=
  c == '\t' || c == '\n' || c == '\r' || (0x20 ≤ c.toNat && c.toNat ≤ 0x7E) || c.toNat == 0x85 ||
    (0xA0 ≤ c.toNat && c.toNat != 0xFFFE && c.toNat != 0xFFFF)

namespace TokenStream

/-- The tokens of a text. -/
def ofChars (chars : List Char) : TokenStream :=
  readTokens none (chars.length + 1) (Layout.start chars)

/-- The character that stands for what is not known of a text.  No text holds it. -/
def unknown : Char := Char.ofNat 0

/-- The tokens of a text that is only known up to a fault. -/
def ofBeginning (chars : List Char) (stop : Fault) : TokenStream :=
  readTokens (some stop) (chars.length + 1) (Layout.start (chars ++ [unknown]))

end TokenStream

end DashboardExport.Yaml
