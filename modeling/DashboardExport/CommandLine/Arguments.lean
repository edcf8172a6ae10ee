import DashboardExport.Text.Digit
import DashboardExport.Text.Literal

/-!
# Arguments of the command

The command takes the ids of the objects to export and a few switches between or
around them.  A switch is written with two dashes and its name, which can be
shortened as long as it is clear, or with one dash and a letter, and then several
letters can share the dash.  The value of a switch is the next argument, or it
follows after an equals sign.

Everything after a lone double dash is an id, and so is what looks like a negative
number or holds a blank without being a switch.  The ids stand together: what is
left of them after a switch in between is not recognized.
-/

set_option autoImplicit false

namespace DashboardExport.CommandLine

inductive Switch where
  | help
  | mode
  | profile
  | config
  | outputDirectory
  | keepTableDefaults
  | verbose
  deriving DecidableEq

namespace Switch

/-- All switches. -/
def all : List Switch :=
  [.help, .mode, .profile, .config, .outputDirectory, .keepTableDefaults, .verbose]

/-- The letter of a switch, if it has one.  A switch with a letter takes no value. -/
def letter? : Switch → Option Char
  | .help => some 'h'
  | .verbose => some 'v'
  | _ => none

/-- The name of a switch with its dashes. -/
def name : Switch → String
  | .help => "--help"
  | .mode => "--mode"
  | .profile => "--profile"
  | .config => "--config"
  | .outputDirectory => "--output-dir"
  | .keepTableDefaults => "--keep-table-defaults"
  | .verbose => "--verbose"

/-- Whether a switch takes a value. -/
def takesValue : Switch → Bool
  | .mode => true
  | .profile => true
  | .config => true
  | .outputDirectory => true
  | _ => false

/-- A switch as messages show it. -/
def shown (switch : Switch) : String :=
  match switch.letter? with
  | some letter => "-" ++ String.singleton letter ++ "/" ++ switch.name
  | none => switch.name

/-- The switch of a letter. -/
def ofLetter? (letter : Char) : Option Switch :=
  all.find? fun switch => switch.letter? == some letter

/-- The switches whose name begins with a text. -/
def startingWith (beginning : String) : List Switch :=
  all.filter fun switch => beginning.toList.isPrefixOf switch.name.toList

end Switch

/-- Why arguments are refused. -/
inductive UsageFault where
  | ambiguous (argument : String) (candidates : List Switch)
  | missingValue (switch : Switch)
  /-- A value for a switch that takes none. -/
  | uselessValue (switch : Switch) (value : String)
  | noIds
  | unrecognized (arguments : List String)
  deriving DecidableEq

def UsageFault.message : UsageFault → String
  | .ambiguous argument candidates =>
    "ambiguous option: " ++ argument ++ " could match " ++
      ", ".intercalate (candidates.map Switch.name)
  | .missingValue switch => "argument " ++ switch.shown ++ ": expected one argument"
  | .uselessValue switch value =>
    "argument " ++ switch.shown ++ ": ignored explicit argument " ++ Text.literal value
  | .noIds => "the following arguments are required: ID"
  | .unrecognized arguments => "unrecognized arguments: " ++ " ".intercalate arguments

/-! ## Single arguments -/

/-- An argument on its own. -/
inductive Argument where
  | plain (text : String)
  /-- The double dash after which every argument is plain. -/
  | separator
  /-- A switch without anything behind it. -/
  | alone (switch : Switch)
  /-- A switch with a value in the same argument. -/
  | valued (switch : Switch) (value : String)
  /-- A letter with more characters behind it, after an equals sign or directly. -/
  | letters (switch : Switch) (afterSign : Bool) (rest : List Char)
  /-- What has the form of a switch and is none. -/
  | unknown (text : String)
  deriving DecidableEq

/-- Whether characters are digits, one at least. -/
def isNumeral (chars : List Char) : Bool := !chars.isEmpty && chars.all Text.isDecimalDigit

/-- Whether a text has the form of a negative number; a line end may follow. -/
def isNegativeNumber : List Char → Bool
  | '-' :: body =>
    let digits := if body.getLast? == some '\n' then body.dropLast else body
    let (whole, fraction) := digits.span (· != '.')
    match fraction with
    | [] => isNumeral whole
    | _ :: decimals => whole.all Text.isDecimalDigit && isNumeral decimals
  | _ => false

/-- A text split at its first equals sign. -/
def splitSign (chars : List Char) : List Char × Option (List Char) :=
  match chars.span (· != '=') with
  | (before, []) => (before, none)
  | (before, _ :: after) => (before, some after)

/-- An argument that is no switch for all that it begins with a dash. -/
def Argument.other (text : String) : Argument :=
  if isNegativeNumber text.toList || text.toList.contains ' ' then .plain text else .unknown text

/-- An argument that begins with two dashes. -/
def Argument.ofName (text : String) : Except UsageFault Argument :=
  let (beginning, value) := splitSign text.toList
  let beginning := String.ofList beginning
  let found := match Switch.all.find? fun switch => switch.name == beginning with
    | some switch => [switch]
    | none => Switch.startingWith beginning
  match found, value with
  | [], _ => .ok (.other text)
  | [one], none => .ok (.alone one)
  | [one], some value => .ok (.valued one (String.ofList value))
  | candidates, _ => .error (.ambiguous text candidates)

/-- An argument that begins with one dash and a character after it. -/
def Argument.ofLetters (text : String) (letter : Char) (rest : List Char) : Argument :=
  match Switch.ofLetter? letter, rest with
  | none, _ => .other text
  | some one, [] => .alone one
  | some one, '=' :: value => .letters one true value
  | some one, rest => .letters one false rest

/-- Reads an argument on its own. -/
def Argument.ofText (text : String) : Except UsageFault Argument :=
  match text.toList with
  | ['-', '-'] => .ok .separator
  | '-' :: '-' :: _ => Argument.ofName text
  | '-' :: letter :: rest => .ok (.ofLetters text letter rest)
  | _ => .ok (.plain text)

/-- Reads arguments up to the separator; what follows it is plain. -/
def Argument.ofTexts : List String → Except UsageFault (List Argument)
  | [] => .ok []
  | text :: rest => do
    match ← Argument.ofText text with
    | .separator => return .separator :: rest.map .plain
    | argument => return argument :: (← Argument.ofTexts rest)

/-! ## Arguments together -/

/-- What the arguments ask for. -/
structure Arguments where
  ids : List String
  mode : String
  profile : Option String
  configPath : Option String
  outputDirectory : Option String
  keepTableDefaults : Bool
  verbose : Bool
  deriving DecidableEq

/-- What arguments come to. -/
inductive Usage where
  /-- Help was asked for. -/
  | help
  | export (arguments : Arguments)
  | fault (fault : UsageFault)
  deriving DecidableEq

/-- What is known after some arguments. -/
structure Draft where
  arguments : Arguments
  /-- Whether the ids were read. -/
  hasIds : Bool
  /-- The arguments since the last switch. -/
  pending : List Argument
  /-- The arguments that belong nowhere. -/
  extras : List String
  deriving DecidableEq

namespace Draft

/-- Nothing but defaults. -/
def start : Draft where
  arguments := ⟨[], "dashboard", none, none, none, false, false⟩
  hasIds := false
  pending := []
  extras := []

/-- The texts of the arguments that are plain. -/
def plainTexts (arguments : List Argument) : List String :=
  arguments.filterMap fun
    | .plain text => some text
    | _ => none

/-- The texts of plain arguments and separators. -/
def writtenTexts (arguments : List Argument) : List String :=
  arguments.filterMap fun
    | .plain text => some text
    | .separator => some "--"
    | _ => none

/-- The arguments since the last switch are the ids, unless there are ids already or none among
them. -/
def settle (draft : Draft) : Draft :=
  let ids := plainTexts draft.pending
  if draft.hasIds || ids.isEmpty then
    { draft with pending := [], extras := draft.extras ++ writtenTexts draft.pending }
  else { draft with pending := [], hasIds := true, arguments := { draft.arguments with ids } }

/-- A draft with a switch that has a value. -/
def withValue (draft : Draft) (value : String) : Switch → Draft
  | .mode => { draft with arguments := { draft.arguments with mode := value } }
  | .profile => { draft with arguments := { draft.arguments with profile := some value } }
  | .config => { draft with arguments := { draft.arguments with configPath := some value } }
  | .outputDirectory =>
    { draft with arguments := { draft.arguments with outputDirectory := some value } }
  | _ => draft

/-- A draft with a switch that has no value. -/
def withSwitch (draft : Draft) : Switch → Draft
  | .keepTableDefaults =>
    { draft with arguments := { draft.arguments with keepTableDefaults := true } }
  | .verbose => { draft with arguments := { draft.arguments with verbose := true } }
  | _ => draft

/-- The switches behind one dash, and what is left over at the first character that is the letter
of none. -/
def readLetters (switch : Switch) (afterSign : Bool) :
    List Char → Except UsageFault (List Switch × List String)
  | [] => .error (.uselessValue switch "")
  | c :: rest =>
    if afterSign || c == '-' then .error (.uselessValue switch (String.ofList (c :: rest)))
    else
      match Switch.ofLetter? c, rest with
      | none, _ => .ok ([switch], [String.ofList ('-' :: c :: rest)])
      | some next, [] => .ok ([switch, next], [])
      | some next, '=' :: value =>
        (readLetters next true value).map fun read => (switch :: read.1, read.2)
      | some next, more =>
        (readLetters next false more).map fun read => (switch :: read.1, read.2)

/-- What the arguments come to when there are no more. -/
def finish (draft : Draft) : Usage :=
  let draft := draft.settle
  if !draft.hasIds then .fault .noIds
  else if draft.extras.isEmpty then .export draft.arguments
  else .fault (.unrecognized draft.extras)

/-- What a draft comes to with further arguments. -/
def read (draft : Draft) : List Argument → Usage
  | [] => draft.finish
  | .alone switch :: rest =>
    if switch.takesValue then
      match rest with
      | .plain value :: rest => read (draft.settle.withValue value switch) rest
      | _ => .fault (.missingValue switch)
    else if switch = .help then .help
    else read (draft.settle.withSwitch switch) rest
  | .valued switch value :: rest =>
    if switch.takesValue then read (draft.settle.withValue value switch) rest
    else .fault (.uselessValue switch value)
  | .letters switch afterSign more :: rest =>
    match readLetters switch afterSign more with
    | .error problem => .fault problem
    | .ok (switches, extras) =>
      if switches.contains .help then .help
      else
        let settled := switches.foldl withSwitch draft.settle
        read { settled with extras := settled.extras ++ extras } rest
  | .unknown text :: rest =>
    let settled := draft.settle
    read { settled with extras := settled.extras ++ [text] } rest
  | argument :: rest => read { draft with pending := draft.pending ++ [argument] } rest

end Draft

/-- What the arguments of the command come to. -/
def Usage.ofTexts (texts : List String) : Usage :=
  match Argument.ofTexts texts with
  | .error problem => .fault problem
  | .ok arguments => Draft.start.read arguments

end DashboardExport.CommandLine
