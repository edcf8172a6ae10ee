/-!
# Tokens of YAML texts

A YAML text is a sequence of tokens: the marks that are written, and the marks
that the indentation stands for.
-/

set_option autoImplicit false

namespace DashboardExport.Yaml

/-- Why a file has no YAML value.  Of all faults only `malformed` is one that a reader of YAML files
foresees. -/
inductive Fault where
  /-- The text is not well formed, or a value in it cannot be built. -/
  | malformed
  /-- An escape gives a number that is no code point. -/
  | escapeOutOfRange (code : Nat)
  /-- An integer is written in a way that no integer is written. -/
  | badInteger (message : String)
  | badFloat (text : String)
  /-- A number without any character. -/
  | emptyNumber
  | badTruth (text : String)
  /-- A date that the calendar does not have, or a time of no clock. -/
  | badDate (reason : String)
  /-- A text that is marked as a date and has not the form of one. -/
  | notDate
  /-- A mapping that is marked as a date, with a default value that would be one. -/
  | mappingAsDate
  /-- So many parts in base sixty that the weight of one of them is no floating-point number. -/
  | hugeWeight
  /-- The file is not UTF-8. -/
  | undecodable
  deriving DecidableEq

/-- What a line between `%` and its end declares. -/
inductive Directive where
  | version (major : Nat)
  /-- A handle stands for the beginning of tags. -/
  | tag (handle beginning : String)
  | other
  deriving DecidableEq

inductive Token where
  | directive (directive : Directive)
  | documentStart
  | documentEnd
  | blockSequenceStart
  | blockMappingStart
  | blockEnd
  | flowSequenceStart
  | flowSequenceEnd
  | flowMappingStart
  | flowMappingEnd
  | blockEntry
  | flowEntry
  | key
  | value
  | alias (name : String)
  | anchor (name : String)
  /-- A tag, with the handle it starts with unless it is written out. -/
  | tag (handle : Option String) (suffix : String)
  | scalar (text : String) (plain : Bool)
  | streamEnd
  deriving DecidableEq

end DashboardExport.Yaml
