import DashboardExport.Service.Host
import DashboardExport.Service.Label
import DashboardExport.Text.Integer
import DashboardExport.Text.Literal

/-!
# Addresses

An address is read into its parts, and every part is brought into its one ASCII
form: the scheme and the host are lowered, a port that the scheme implies is
dropped, dots that stand for a place in the path are resolved, and characters that
a part cannot hold are percent-encoded.

`extend` appends a further path to an address.  It works on path and query as one
text, the way they are sent, so a query that the address already has takes in what
is appended.
-/

set_option autoImplicit false

namespace DashboardExport.Service

open DashboardExport.Text

/-- Why a text is no address. -/
inductive AddressFault where
  | tooLong
  | partTooLong (part : String)
  /-- A control character at a position. -/
  | control (found : Char) (position : Nat)
  | badPort (text : String)
  | badDotted (host : String)
  | badBracketed (host : String)
  | badName (host : String)
  | pathWithoutSlash
  | pathWithTwoSlashes
  | pathWithColon
  /-- Reported by the transport. -/
  | refused (message : String)
  deriving DecidableEq

def AddressFault.message : AddressFault → String
  | .tooLong => "URL too long"
  | .partTooLong part => "URL component '" ++ part ++ "' too long"
  | .control found position =>
    "Invalid non-printable ASCII character in URL, " ++ literal (String.singleton found) ++
      " at position " ++ toString position ++ "."
  | .badPort text => "Invalid port: " ++ literal text
  | .badDotted host => "Invalid IPv4 address: " ++ literal host
  | .badBracketed host => "Invalid IPv6 address: " ++ literal host
  | .badName host => "Invalid IDNA hostname: " ++ literal host
  | .pathWithoutSlash => "For absolute URLs, path must be empty or begin with '/'"
  | .pathWithTwoSlashes => "Relative URLs cannot have a path starting with '//'"
  | .pathWithColon => "Relative URLs cannot have a path starting with ':'"
  | .refused message => message

/-- An address in its one form.  The parts are ASCII texts. -/
structure Address where
  scheme : List Char
  userInfo : List Char
  host : List Char
  port : Option Int
  path : List Char
  query : Option (List Char)
  fragment : Option (List Char)
  deriving DecidableEq

/-- The parts of an address as they are written. -/
structure AddressParts where
  scheme : List Char
  authority : List Char
  path : List Char
  query : Option (List Char)
  fragment : Option (List Char)
  deriving DecidableEq

/-- The parts of an authority as they are written. -/
structure AuthorityParts where
  userInfo : List Char
  host : List Char
  port : List Char
  deriving DecidableEq

/-! ## Reading -/

/-- Splits a text at the first of the given characters, which is dropped. -/
def splitFirst (mark : Char) (chars : List Char) : List Char × Option (List Char) :=
  match chars.span (· != mark) with
  | (before, []) => (before, none)
  | (before, _ :: after) => (before, some after)

/-- Splits a text at the last of the given characters, which is dropped. -/
def splitLast? (mark : Char) (chars : List Char) : Option (List Char × List Char) :=
  match splitFirst mark chars.reverse with
  | (_, none) => none
  | (after, some before) => some (before.reverse, after.reverse)

/-- Whether a text can be the scheme of an address. -/
def isScheme : List Char → Bool
  | [] => true
  | c :: rest => c.isAlpha && rest.all fun d => d.isAlphanum || ['+', '.', '-'].contains d

/-- Splits a scheme off the front. -/
def splitScheme (chars : List Char) : List Char × List Char :=
  match splitFirst ':' chars with
  | (before, some after) => if isScheme before then (before, after) else ([], chars)
  | _ => ([], chars)

/-- Splits an authority off the front. -/
def splitAuthority : List Char → List Char × List Char
  | '/' :: '/' :: rest => rest.span fun c => !(['/', '?', '#'].contains c)
  | chars => ([], chars)

/-- The parts of an address. -/
def AddressParts.ofChars (chars : List Char) : AddressParts :=
  let (scheme, rest) := splitScheme chars
  let (authority, rest) := splitAuthority rest
  let (beforeFragment, fragment) := splitFirst '#' rest
  let (path, query) := splitFirst '?' beforeFragment
  { scheme, authority, path, query, fragment }

/-- Splits a bracketed host off the front. -/
def splitBracketed? (chars : List Char) : Option (List Char × List Char) :=
  match chars with
  | '[' :: _ => (splitLast? ']' chars).map fun r => (r.1 ++ [']'], r.2)
  | _ => none

/-- The parts of an authority. -/
def AuthorityParts.ofChars (chars : List Char) : AuthorityParts :=
  let (userInfo, rest) := (splitLast? '@' chars).getD ([], chars)
  let (host, rest) :=
    (splitBracketed? rest).getD (rest.span fun c => c != ':' && c != '@')
  { userInfo, host
    port := match rest with
      | ':' :: port => port
      | port => port }

/-! ## One form -/

/-- The port that a scheme implies. -/
def impliedPort? (scheme : List Char) : Option Int :=
  [("ftp".toList, 21), ("http".toList, 80), ("https".toList, 443), ("ws".toList, 80),
    ("wss".toList, 443)].lookup scheme

/-- The port of an address; none if it is not given or implied. -/
def readPort (scheme port : List Char) : Except AddressFault (Option Int) :=
  if port.isEmpty then .ok none
  else
    match readInteger 10 (String.ofList port) with
    | .error _ => .error (.badPort (String.ofList port))
    | .ok number => .ok (if impliedPort? scheme = some number then none else some number)

/-- The host of an address in its one form. -/
def readHost (host : List Char) : Except AddressFault (List Char) :=
  if host.isEmpty then .ok []
  else if Host.looksDotted host then
    if Host.isDotted host then .ok host else .error (.badDotted (String.ofList host))
  else if host.head? == some '[' && host.getLast? == some ']' then
    let number := host.tail.dropLast
    if Host.isColonSeparated number then .ok number
    else .error (.badBracketed (String.ofList host))
  else if host.all fun c => c.toNat < 128 then
    .ok (Percent.encode Percent.inHost (host.map Char.toLower))
  else
    match Label.nameForm? (lower (String.ofList host)).toList with
    | some name => .ok name
    | none => .error (.badName (String.ofList host))

/-- One step of resolving dots: the part joins those before it, kept in reverse. -/
def resolvePart (before : List (List Char)) (part : List Char) : List (List Char) :=
  if part == ['.'] then before
  else if part == ['.', '.'] then if before == [[]] then before else before.drop 1
  else part :: before

/-- A path with its dots resolved. -/
def resolveDots (path : List Char) : List Char :=
  let parts := splitAtEvery (· == '/') path
  if parts.contains ['.'] || parts.contains ['.', '.'] then
    ['/'].intercalate (parts.foldl resolvePart []).reverse
  else path

/-- Whether a path can follow what stands before it. -/
def checkPath (path : List Char) (hasScheme hasAuthority : Bool) : Except AddressFault Unit :=
  if hasAuthority && !path.isEmpty && path.head? != some '/' then .error .pathWithoutSlash
  else if !hasScheme && !hasAuthority && ['/', '/'].isPrefixOf path then
    .error .pathWithTwoSlashes
  else if !hasScheme && !hasAuthority && path.head? == some ':' then .error .pathWithColon
  else .ok ()

/-- The address with the given parts. -/
def Address.ofParts (parts : AddressParts) : Except AddressFault Address := do
  let authority := AuthorityParts.ofChars parts.authority
  let scheme := parts.scheme.map Char.toLower
  let userInfo := Percent.encode Percent.inUserInfo authority.userInfo
  let host ← readHost authority.host
  let port ← readPort parts.scheme authority.port
  let hasScheme := !scheme.isEmpty
  let hasAuthority := !userInfo.isEmpty || !host.isEmpty || port.isSome
  checkPath parts.path hasScheme hasAuthority
  let path := if hasScheme || hasAuthority then resolveDots parts.path else parts.path
  return {
    scheme, userInfo, host, port
    path := Percent.encode Percent.inPath path
    query := parts.query.map (Percent.encode Percent.inQuery)
    fragment := parts.fragment.map (Percent.encode Percent.inFragment) }

/-- The greatest length of an address and of each of its parts. -/
def lengthLimit : Nat := 65536

/-- The first control character with its position. -/
def firstControl? : Nat → List Char → Option (Char × Nat)
  | _, [] => none
  | position, c :: rest =>
    if c.toNat < 0x20 || c.toNat == 0x7F then some (c, position)
    else firstControl? (position + 1) rest

/-- Reads an address. -/
def Address.ofText (text : String) : Except AddressFault Address :=
  let chars := text.toList
  if lengthLimit < chars.length then .error .tooLong
  else
    match firstControl? 0 chars with
    | some (found, position) => .error (.control found position)
    | none => Address.ofParts (AddressParts.ofChars chars)

namespace Address

/-! ## Writing -/

/-- The port with the colon before it. -/
def portChars (address : Address) : List Char :=
  match address.port with
  | some port => ':' :: (toString port).toList
  | none => []

/-- The host as it is written, a colon-separated number in brackets. -/
def hostChars (address : Address) : List Char :=
  if address.host.contains ':' then '[' :: (address.host ++ [']']) else address.host

/-- The authority of an address. -/
def authority (address : Address) : List Char :=
  (if address.userInfo.isEmpty then [] else address.userInfo ++ ['@']) ++ address.hostChars ++
    address.portChars

/-- An optional part with the mark before it. -/
def marked (mark : Char) : Option (List Char) → List Char
  | none => []
  | some chars => mark :: chars

/-- The text of an address. -/
def text (address : Address) : String :=
  String.ofList ((if address.scheme.isEmpty then [] else address.scheme ++ [':']) ++
    (if address.authority.isEmpty then [] else '/' :: '/' :: address.authority) ++
    address.path ++ marked '?' address.query ++ marked '#' address.fragment)

/-- Path and query as they are sent. -/
def target (address : Address) : List Char :=
  (if address.path.isEmpty then ['/'] else address.path) ++ marked '?' address.query

/-! ## Extending -/

/-- The parts of an address whose length is limited, with their names. -/
def limitedParts (parts : AddressParts) : List (String × List Char) :=
  [("scheme", parts.scheme), ("authority", parts.authority), ("path", parts.path),
    ("query", parts.query.getD []), ("fragment", parts.fragment.getD [])]

/-- The address with another path and query, given as one text. -/
def withTarget (address : Address) (target : List Char) : Except AddressFault Address :=
  let (path, query) := splitFirst '?' target
  let parts : AddressParts :=
    { scheme := address.scheme, authority := address.authority, path, query
      fragment := address.fragment }
  match (limitedParts parts).find? fun part => lengthLimit < part.2.length with
  | some part => .error (.partTooLong part.1)
  | none => Address.ofParts parts

/-- An address that further paths can be appended to: its target ends with a slash. -/
def asDirectory (address : Address) : Except AddressFault Address :=
  if address.target.getLast? == some '/' then .ok address
  else address.withTarget (address.target ++ ['/'])

/-- The address with a further path. -/
def extend (address : Address) (text : String) : Except AddressFault Address := do
  let further ← Address.ofText text
  address.withTarget (address.target ++ further.target.dropWhile (· == '/'))

end Address

end DashboardExport.Service
