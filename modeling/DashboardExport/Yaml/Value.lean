import DashboardExport.Binary64.Shortest
import DashboardExport.Decoding.Scalar
import DashboardExport.Text.Base64
import DashboardExport.Text.FileText
import DashboardExport.Text.Literal
import DashboardExport.Yaml.Node
import DashboardExport.Yaml.Time

/-!
# YAML values

What a document stands for.  A mapping keeps its entries in the order of their
first keys, and of equal keys the last value counts; numbers and truth values are
equal across types when their values are.  Collections cannot be keys.  The mark
for merging puts the entries of other mappings before a mapping's own.

Values are built level by level, outer ones first, so of several faults the one
that is least deep wins, and among those the first.
-/

set_option autoImplicit false

namespace DashboardExport.Yaml

open DashboardExport.Text

inductive Value where
  | null
  | bool (value : Bool)
  | int (value : Int)
  | float (value : Binary64)
  | str (text : String)
  | bytes (contents : List UInt8)
  | date (date : Date)
  | moment (moment : Moment)
  | seq (items : List Value)
  | map (entries : List (Value × Value))
  | set (members : List Value)
  | pairs (entries : List (Value × Value))
  /-- The value that this one stands inside of. -/
  | enclosing

namespace Value

/-! ## Equal keys -/

/-- The number that a value counts as, if it is an integer or a truth value. -/
def integer? : Value → Option Int
  | .bool b => some (if b then 1 else 0)
  | .int n => some n
  | _ => none

/-- Whether a floating-point number has the value of an integer. -/
def isInteger (x : Binary64) (n : Int) : Bool := x.isIntegral && x.truncate? == some n

/-- Whether two floating-point numbers are one key. -/
def sameFloat (x y : Binary64) : Bool := x == y || (x.isZero && y.isZero)

/-- Whether two values are one key. -/
def sameKey (a b : Value) : Bool :=
  match a.integer?, b.integer? with
  | some m, some n => m == n
  | some m, none => match b with
    | .float y => isInteger y m
    | _ => false
  | none, some n => match a with
    | .float x => isInteger x n
    | _ => false
  | none, none =>
    match a, b with
    | .null, .null => true
    | .float x, .float y => sameFloat x y
    | .str s, .str t => s == t
    | .bytes s, .bytes t => s == t
    | .date d, .date e => d == e
    | .moment m, .moment n => m.same n
    | _, _ => false

/-- Sets the value of a key: in place if an equal key is there, at the end otherwise. -/
def put (key value : Value) : List (Value × Value) → List (Value × Value)
  | [] => [(key, value)]
  | (k, v) :: rest => if k.sameKey key then (k, value) :: rest else (k, v) :: put key value rest

/-- The value of a text key. -/
def lookup? (name : String) (entries : List (Value × Value)) : Option Value :=
  (entries.find? fun entry => entry.1.sameKey (.str name)).map Prod.snd

/-! ## Building -/

/-- A fault with the depth of the value that it is found at. -/
abbrev Built (α : Type) := Except (Nat × Fault) α

/-- Two results in order: the fault that is less deep wins, or the first of two as deep. -/
def both {α β : Type} : Built α → Built β → Built (α × β)
  | .ok a, .ok b => .ok (a, b)
  | .error e, .ok _ => .error e
  | .ok _, .error e => .error e
  | .error d, .error e => .error (if e.1 < d.1 then e else d)

/-- A result with the depth at which it is found. -/
def atDepth {α : Type} (depth : Nat) : Except Fault α → Built α
  | .ok a => .ok a
  | .error fault => .error (depth, fault)

end Value

namespace Node

/-- The text of a node that a scalar is made of: a scalar's own, or the default value of a
mapping. -/
def scalarText? : Nat → Node → Option String
  | _, .scalar _ text => some text
  | fuel + 1, .mapping _ entries =>
    (entries.find? fun entry =>
      match entry.1 with
      | .scalar .defaultValue _ => true
      | _ => false).bind fun entry => scalarText? fuel entry.2
  | _, _ => none

/-- Whether the value of a node can be a key. -/
def canBeKey : Node → Bool
  | .scalar .. => true
  | .sequence tag _ => !([Tag.seq, .set, .map, .pairs, .orderedMap].contains tag)
  | .mapping tag _ => !([Tag.seq, .set, .map, .pairs, .orderedMap].contains tag)
  | .enclosing => false

/-- A key that is the mark for a default value is a text in a mapping. -/
def plainKey : Node → Node
  | .scalar .defaultValue text => .scalar .str text
  | key => key

def isMerge : Node → Bool
  | .scalar .merge _ => true
  | _ => false

mutual
/-- The entries of a mapping with those that it merges before its own. -/
def mergedEntries : Nat → List (Node × Node) → Except Fault (List (Node × Node))
  | 0, _ => .error .malformed
  | fuel + 1, entries => do
    let own := (entries.filter fun entry => !entry.1.isMerge).map fun entry =>
      (entry.1.plainKey, entry.2)
    return (← mergedFrom fuel ((entries.filter fun entry => entry.1.isMerge).map Prod.snd)) ++ own

/-- The entries that the values of merge marks bring in. -/
def mergedFrom : Nat → List Node → Except Fault (List (Node × Node))
  | 0, _ => .error .malformed
  | _, [] => .ok []
  | fuel + 1, source :: rest => do
    let entries ← match source with
      | .mapping _ entries => mergedEntries fuel entries
      | .sequence _ items => mergedItems fuel items
      | .enclosing => pure []
      | .scalar .. => .error .malformed
    return entries ++ (← mergedFrom fuel rest)

/-- The entries that a sequence of mappings brings in, those of the last one first. -/
def mergedItems : Nat → List Node → Except Fault (List (Node × Node))
  | 0, _ => .error .malformed
  | _, [] => .ok []
  | fuel + 1, item :: rest => do
    let entries ← match item with
      | .mapping _ entries => mergedEntries fuel entries
      | .enclosing => pure []
      | _ => .error .malformed
    return (← mergedItems fuel rest) ++ entries
end

/-- The bytes that a text in base 64 stands for. -/
def readBytes (text : String) : Except Fault (List UInt8) :=
  if text.toList.all fun c => c.toNat < 128 then
    match Base64.decode? text.toList with
    | some bytes => .ok bytes
    | none => .error .malformed
  else .error .malformed

/-- The value of a text of a scalar type. -/
def scalarValue (tag : Tag) (text : String) : Except Fault Value :=
  match tag with
  | .null => .ok .null
  | .bool => (readTruth text).map .bool
  | .int => (readInt text).map .int
  | .float => (readFloat text).map .float
  | .binary => (readBytes text).map .bytes
  | .timestamp => (readDate text).map fun
    | .date date => .date date
    | .moment moment => .moment moment
  | .str => .ok (.str text)
  | _ => .error .malformed

open Value

mutual
/-- The value of a node at a depth. -/
def build : Nat → Nat → Node → Built Value
  | 0, depth, _ => .error (depth, .malformed)
  | _, _, .enclosing => .ok .enclosing
  | _ + 1, depth, .scalar tag text =>
    match tag with
    | .seq | .map | .set | .pairs | .orderedMap => .error (depth + 1, .malformed)
    | _ => atDepth depth (scalarValue tag text)
  | fuel + 1, depth, .sequence tag items =>
    match tag with
    | .seq => (buildItems fuel (depth + 1) items).map .seq
    | .pairs => (buildPairs fuel (depth + 1) items).map .pairs
    | .orderedMap => (buildPairs fuel (depth + 1) items).map .pairs
    | .map => .error (depth + 1, .malformed)
    | .set => .error (depth + 1, .malformed)
    | _ => .error (depth, .malformed)
  | fuel + 1, depth, .mapping tag entries =>
    match tag with
    | .map => (buildMapping fuel depth entries).map .map
    | .set => (buildMapping fuel depth entries).map fun built => .set (built.map Prod.fst)
    | .seq => .error (depth + 1, .malformed)
    | .pairs => .error (depth + 1, .malformed)
    | .orderedMap => .error (depth + 1, .malformed)
    | tag =>
      match scalarText? fuel (.mapping tag entries) with
      | some text =>
        -- A date is read off the node itself, which is no text.
        atDepth depth (if tag = .timestamp then .error .mappingAsDate else scalarValue tag text)
      | none => .error (depth, .malformed)

/-- The entries of a mapping at a depth. -/
def buildMapping : Nat → Nat → List (Node × Node) → Built (List (Value × Value))
  | 0, depth, _ => .error (depth, .malformed)
  | fuel + 1, depth, entries =>
    match mergedEntries fuel entries with
    | .error fault => .error (depth + 1, fault)
    | .ok entries => buildEntries fuel (depth + 1) [] entries

/-- The values of items, all at the given depth. -/
def buildItems : Nat → Nat → List Node → Built (List Value)
  | 0, depth, _ => .error (depth, .malformed)
  | _, _, [] => .ok []
  | fuel + 1, depth, item :: rest =>
    (both (build fuel depth item) (buildItems fuel depth rest)).map fun r => r.1 :: r.2

/-- The values of entries, all at the given depth, put into those built before. -/
def buildEntries : Nat → Nat → List (Value × Value) → List (Node × Node) →
    Built (List (Value × Value))
  | 0, depth, _, _ => .error (depth, .malformed)
  | _, _, built, [] => .ok built
  | fuel + 1, depth, built, (key, value) :: rest =>
    if key.canBeKey then
      match both (build fuel depth key) (build fuel depth value) with
      | .ok (key, value) => buildEntries fuel depth (put key value built) rest
      | .error e =>
        (both (.error e : Built Unit) (buildEntries fuel depth built rest)).map Prod.snd
    else .error (depth, .malformed)

/-- The pairs that a sequence of mappings with one entry each stands for. -/
def buildPairs : Nat → Nat → List Node → Built (List (Value × Value))
  | 0, depth, _ => .error (depth, .malformed)
  | _, _, [] => .ok []
  | fuel + 1, depth, .mapping _ [(key, value)] :: rest =>
    (both (both (build fuel depth key) (build fuel depth value)) (buildPairs fuel depth rest)).map
      fun r => r.1 :: r.2
  | _, depth, _ :: _ => .error (depth, .malformed)
end

mutual
/-- The number of nodes in a tree. -/
def size : Node → Nat
  | .scalar .. => 1
  | .sequence _ items => 1 + sizeItems items
  | .mapping _ entries => 1 + sizeEntries entries
  | .enclosing => 1

def sizeItems : List Node → Nat
  | [] => 1
  | item :: rest => 1 + size item + sizeItems rest

def sizeEntries : List (Node × Node) → Nat
  | [] => 1
  | (key, value) :: rest => 1 + size key + size value + sizeEntries rest
end

/-- The value of a node. -/
def value (node : Node) : Except Fault Value :=
  match build (4 * node.size + 4) 0 node with
  | .ok value => .ok value
  | .error (_, fault) => .error fault

end Node

namespace Value

/-- The value of a stream of tokens; a stream without a document has the value null. -/
def ofStream (stream : TokenStream) : Except Fault Value := do
  match ← Node.ofStream? stream with
  | some node => node.value
  | none => return .null

/-- The value of a text that is only known up to a fault.  A text that is not well formed before
that has a fault of its own. -/
def ofBeginning (chars : List Char) (stop : Fault) : Except Fault Value :=
  match Node.ofStream? (.ofBeginning chars stop) with
  | .error fault => .error fault
  | .ok _ => .error stop

/-- The number of characters that are read at a time. -/
def blockSize : Nat := 4096

/-- The characters of the blocks before a place. -/
def blocksBefore (place : Nat) (chars : List Char) : List Char :=
  chars.take (blockSize * (place / blockSize))

/-- The value of the text of a file, or of what is decoded of it.  A block with a character that no
text holds is bad. -/
def ofFileText : Except String String → Except Fault Value
  | .ok text =>
    match text.toList.findIdx? (!isAllowed ·) with
    | none => ofStream (.ofChars text.toList)
    | some place => ofBeginning (blocksBefore place text.toList) .malformed
  | .error before =>
    let known := blocksBefore before.toList.length before.toList
    match known.findIdx? (!isAllowed ·) with
    | none => ofBeginning known .undecodable
    | some place => ofBeginning (blocksBefore place known) .malformed

/-- The value of the contents of a file. -/
def ofFile (contents : List UInt8) : Except Fault Value := ofFileText (Text.decodeFile contents)

/-! ## Views -/

/-- Whether a value counts as true: it is not null, zero or empty. -/
def isTruthy : Value → Bool
  | .null => false
  | .bool b => b
  | .int n => n != 0
  | .float x => !x.isZero
  | .str s => s != ""
  | .bytes contents => !contents.isEmpty
  | .seq items => !items.isEmpty
  | .map entries => !entries.isEmpty
  | .set members => !members.isEmpty
  | .pairs entries => !entries.isEmpty
  | .date _ => true
  | .moment _ => true
  | .enclosing => true

/-- A byte as messages show it between the given marks. -/
def shownByte (mark : Char) (byte : UInt8) : List Char :=
  let c := Char.ofNat byte.toNat
  if byte < 0x80 then shownChar mark c else codeEscape c

/-- Bytes as messages show them. -/
def bytesLiteral (contents : List UInt8) : String :=
  let mark := markFor (contents.map fun byte => Char.ofNat byte.toNat)
  String.ofList ('b' :: mark :: (contents.flatMap (shownByte mark) ++ [mark]))

/-- Why a value is not looked for as a key, or not shown when it is not found. -/
inductive KeyFault where
  /-- A collection of the named kind cannot be a key. -/
  | collection (kind : String)
  /-- An integer has more digits than messages show. -/
  | longInteger
  deriving DecidableEq

/-- The words for a value that is not looked for or not shown. -/
def KeyFault.message : KeyFault → String
  | .collection kind => "unhashable type: '" ++ kind ++ "'"
  | .longInteger =>
    "Exceeds the limit (" ++ toString decimalDigitLimit ++
      " digits) for integer string conversion; " ++
      "use sys.set_int_max_str_digits() to increase the limit"

/-- A value as messages show a key.  A mapping can be inside itself. -/
def literal : Value → Except KeyFault String
  | .null => .ok "None"
  | .bool true => .ok "True"
  | .bool false => .ok "False"
  | .int n =>
    if Nat.pow 10 decimalDigitLimit ≤ n.natAbs then .error .longInteger else .ok (toString n)
  | .float x => .ok (x.render Binary64.messageLayout)
  | .str s => .ok (Text.literal s)
  | .bytes contents => .ok (bytesLiteral contents)
  | .date day => .ok day.literal
  | .moment time => .ok time.literal
  | .map _ => .error (.collection "dict")
  | .enclosing => .error (.collection "dict")
  | .set _ => .error (.collection "set")
  | .seq _ => .error (.collection "list")
  | .pairs _ => .error (.collection "list")

/-- A value that can be a key, as plain text. -/
def plain : Value → String
  | .str s => s
  | .date day => day.text
  | .moment time => time.text
  | value => value.literal.toOption.getD ""

/-- A value as far as scalar fields look at it. -/
def toScalar : Value → Decoding.Scalar
  | .null => .null
  | .bool b => .bool b
  | .int n => .int n
  | .float x => .float x
  | .str s => .text s
  | .bytes contents => .bytes contents
  | _ => .compound

end Value

/-- A reader of YAML files: the value of the contents of a file, or why they have none. -/
abbrev FileReader := List UInt8 → Except Fault Value

end DashboardExport.Yaml
