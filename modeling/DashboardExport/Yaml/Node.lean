import DashboardExport.Yaml.Scalar
import DashboardExport.Yaml.TokenStream

/-!
# Nodes of YAML documents

A document is a tree of scalars, sequences and mappings, each with its type.  An
alias stands for the node of its anchor; inside of that node itself, where the
tree would have no end, it is kept as `enclosing`.

The tree is read off the tokens by recursive descent.  A place where a node is
missing, such as after a colon at the end of a line, holds an empty scalar.
-/

set_option autoImplicit false

namespace DashboardExport.Yaml

/-- A node with its type. -/
inductive Node where
  | scalar (tag : Tag) (text : String)
  | sequence (tag : Tag) (items : List Node)
  | mapping (tag : Tag) (entries : List (Node × Node))
  /-- An alias inside of the node that it stands for. -/
  | enclosing

namespace Node

/-- What is left to read, and what is known from what was read. -/
structure Context where
  tokens : List Token
  /-- What ends the tokens. -/
  fault : Fault
  /-- The anchors so far; those of nodes that are still being read have no node. -/
  anchors : List (String × Option Node)
  /-- What tag handles stand for. -/
  handles : List (String × String)

abbrev Reader := StateT Context (Except Fault)

/-- The next token. -/
def peek : Reader Token := do
  let context ← get
  match context.tokens with
  | token :: _ => return token
  | [] => throw context.fault

/-- Steps over the next token. -/
def skip : Reader Unit := modify fun context => { context with tokens := context.tokens.drop 1 }

def fail {α : Type} : Reader α := throw .malformed

/-- Steps over the next token, which has to be the given one. -/
def expect (token : Token) : Reader Unit := do
  if (← peek) = token then skip else fail

/-- Where a node is missing. -/
def empty : Node := .scalar .null ""

/-- The tag written before a node, its handle resolved. -/
def resolveTag (handle : Option String) (suffix : String) : Reader String := do
  match handle with
  | none => return suffix
  | some handle =>
    match (← get).handles.lookup handle with
    | some beginning => return beginning ++ suffix
    | none => fail

/-- What stands before the content of a node: an anchor and a tag, in either order. -/
structure Properties where
  anchor? : Option String
  tag? : Option String

/-- Reads a tag if there is one. -/
def readTag? : Reader (Option (Option String × String)) := do
  match ← peek with
  | .tag handle suffix =>
    skip
    return some (handle, suffix)
  | _ => return none

/-- Reads an anchor if there is one. -/
def readAnchor? : Reader (Option String) := do
  match ← peek with
  | .anchor name =>
    skip
    return some name
  | _ => return none

def readProperties : Reader Properties := do
  let tagFirst ← readTag?
  let anchor? ← readAnchor?
  let tag ← match tagFirst with
    | some tag => pure (some tag)
    | none => if anchor?.isSome then readTag? else pure none
  match tag with
  | some (handle, suffix) => return { anchor?, tag? := some (← resolveTag handle suffix) }
  | none => return { anchor?, tag? := none }

/-- The type of a node: its tag, or what it is by itself. -/
def Properties.tagOr (properties : Properties) (default : Tag) : Tag :=
  match properties.tag? with
  | none => default
  | some "!" => default
  | some text => Tag.ofText text

/-- Refuses an anchor that is already there. -/
def Properties.checkAnchor (properties : Properties) : Reader Unit := do
  match properties.anchor? with
  | none => return
  | some name => if ((← get).anchors.lookup name).isSome then fail

/-- Sets the node of an anchor. -/
def Properties.setAnchor (properties : Properties) (node? : Option Node) : Reader Unit :=
  match properties.anchor? with
  | none => return
  | some name =>
    modify fun context => { context with anchors := (name, node?) :: context.anchors }

/-- Reads a collection with its anchor open. -/
def Properties.around (properties : Properties) (read : Reader Node) : Reader Node := do
  properties.checkAnchor
  skip
  properties.setAnchor none
  let node ← read
  properties.setAnchor (some node)
  return node

/-- A scalar with its anchor. -/
def Properties.ofScalar (properties : Properties) (tag : Tag) (text : String) : Reader Node := do
  properties.checkAnchor
  let node := Node.scalar tag text
  properties.setAnchor (some node)
  return node

/-- Where a node can stand, which decides what it can be. -/
inductive Place where
  /-- In a flow collection. -/
  | flow
  /-- In a block collection. -/
  | block
  /-- In a block mapping, where a sequence need not be indented. -/
  | blockOrIndentless
  deriving DecidableEq

mutual
/-- Reads a node. -/
def read : Nat → Place → Reader Node
  | 0, _ => fail
  | fuel + 1, place => do
    match ← peek with
    | .alias name =>
      skip
      match (← get).anchors.lookup name with
      | some (some node) => return node
      | some none => return .enclosing
      | none => fail
    | _ =>
      let properties ← readProperties
      let token ← peek
      if place = .blockOrIndentless && token = .blockEntry then
        properties.checkAnchor
        properties.setAnchor none
        let node ← Node.sequence (properties.tagOr .seq) <$> readIndentless fuel
        properties.setAnchor (some node)
        return node
      else
        match token with
        | .scalar text plain =>
          skip
          let implied := if plain || properties.tag?.isSome then plainTag text else .str
          properties.ofScalar (properties.tagOr implied) text
        | .flowSequenceStart =>
          properties.around
            (Node.sequence (properties.tagOr .seq) <$> readFlowItems fuel true)
        | .flowMappingStart =>
          properties.around
            (Node.mapping (properties.tagOr .map) <$> readFlowEntries fuel true)
        | .blockSequenceStart =>
          if place = .flow then fail
          else
            properties.around (Node.sequence (properties.tagOr .seq) <$> readBlockItems fuel)
        | .blockMappingStart =>
          if place = .flow then fail
          else
            properties.around (Node.mapping (properties.tagOr .map) <$> readBlockEntries fuel)
        | _ =>
          if properties.anchor?.isSome || properties.tag?.isSome then
            properties.ofScalar (properties.tagOr .null) ""
          else fail

/-- Reads a node unless one of the given tokens comes next. -/
def readUnless : Nat → Place → List Token → Reader Node
  | 0, _, _ => fail
  | fuel + 1, place, ends => do
    if ends.contains (← peek) then return empty else read fuel place

/-- Reads the items of a block sequence, up to its end. -/
def readBlockItems : Nat → Reader (List Node)
  | 0 => fail
  | fuel + 1 => do
    match ← peek with
    | .blockEntry =>
      skip
      let item ← readUnless fuel .block [.blockEntry, .blockEnd]
      return item :: (← readBlockItems fuel)
    | .blockEnd =>
      skip
      return []
    | _ => fail

/-- Reads the items of a sequence that is not indented. -/
def readIndentless : Nat → Reader (List Node)
  | 0 => fail
  | fuel + 1 => do
    match ← peek with
    | .blockEntry =>
      skip
      let item ← readUnless fuel .block [.blockEntry, .key, .value, .blockEnd]
      return item :: (← readIndentless fuel)
    | _ => return []

/-- Reads the entries of a block mapping, up to its end. -/
def readBlockEntries : Nat → Reader (List (Node × Node))
  | 0 => fail
  | fuel + 1 => do
    match ← peek with
    | .key =>
      skip
      let key ← readUnless fuel .blockOrIndentless [.key, .value, .blockEnd]
      let value ← readValue fuel .blockOrIndentless [.key, .value, .blockEnd]
      return (key, value) :: (← readBlockEntries fuel)
    | .blockEnd =>
      skip
      return []
    | _ => fail

/-- Reads the value of an entry; without a colon there is none. -/
def readValue : Nat → Place → List Token → Reader Node
  | 0, _, _ => fail
  | fuel + 1, place, ends => do
    match ← peek with
    | .value =>
      skip
      readUnless fuel place ends
    | _ => return empty

/-- Reads the items of a flow sequence, up to its end.  An entry of a mapping among the items is a
mapping with this entry alone. -/
def readFlowItems : Nat → Bool → Reader (List Node)
  | 0, _ => fail
  | fuel + 1, first => do
    if (← peek) = .flowSequenceEnd then
      skip
      return []
    else
      unless first do expect .flowEntry
      match ← peek with
      | .key =>
        skip
        let key ← readUnless fuel .flow [.value, .flowEntry, .flowSequenceEnd]
        let value ← readValue fuel .flow [.flowEntry, .flowSequenceEnd]
        return .mapping .map [(key, value)] :: (← readFlowItems fuel false)
      | .flowSequenceEnd =>
        skip
        return []
      | _ =>
        let item ← read fuel .flow
        return item :: (← readFlowItems fuel false)

/-- Reads the entries of a flow mapping, up to its end. -/
def readFlowEntries : Nat → Bool → Reader (List (Node × Node))
  | 0, _ => fail
  | fuel + 1, first => do
    if (← peek) = .flowMappingEnd then
      skip
      return []
    else
      unless first do expect .flowEntry
      match ← peek with
      | .key =>
        skip
        let key ← readUnless fuel .flow [.value, .flowEntry, .flowMappingEnd]
        let value ← readValue fuel .flow [.flowEntry, .flowMappingEnd]
        return (key, value) :: (← readFlowEntries fuel false)
      | .flowMappingEnd =>
        skip
        return []
      | _ =>
        let key ← read fuel .flow
        return (key, empty) :: (← readFlowEntries fuel false)
end

/-! ## Documents -/

/-- The tag handles that need no directive. -/
def defaultHandles : List (String × String) := [("!", "!"), ("!!", Tag.standard)]

/-- Reads the directives before a document: at most one version, and of every handle one meaning. -/
def readDirectives : Nat → Bool → List (String × String) → Reader (List (String × String))
  | 0, _, _ => fail
  | fuel + 1, versioned, handles => do
    match ← peek with
    | .directive directive =>
      skip
      match directive with
      | .version major =>
        if versioned || major != 1 then fail else readDirectives fuel true handles
      | .tag handle beginning =>
        if (handles.lookup handle).isSome then fail
        else readDirectives fuel versioned ((handle, beginning) :: handles)
      | .other => readDirectives fuel versioned handles
    | _ => return handles

/-- Steps over the marks that end a document. -/
def skipEnds : Nat → Reader Unit
  | 0 => fail
  | fuel + 1 => do
    if (← peek) = .documentEnd then
      skip
      skipEnds fuel

/-- Reads the one document of a stream; an empty stream has none. -/
def readDocument (fuel : Nat) : Reader (Option Node) := do
  match ← peek with
  | .streamEnd => return none
  | .directive _ | .documentStart =>
    let handles ← readDirectives fuel false []
    modify fun context => { context with handles := handles ++ defaultHandles }
    expect .documentStart
    let node ← match ← peek with
      | .directive _ | .documentStart | .documentEnd | .streamEnd => pure empty
      | _ => read fuel .block
    skipEnds fuel
    expect .streamEnd
    return some node
  | _ =>
    let node ← read fuel .block
    skipEnds fuel
    expect .streamEnd
    return some node

/-- The node of a stream of tokens. -/
def ofStream? (stream : TokenStream) : Except Fault (Option Node) :=
  let context : Context :=
    { tokens := stream.tokens, fault := stream.fault?.getD .malformed, anchors := []
      handles := defaultHandles }
  ((readDocument (4 * stream.tokens.length + 4)).run context).map Prod.fst

end Node

end DashboardExport.Yaml
