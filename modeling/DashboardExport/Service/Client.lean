import DashboardExport.Event
import DashboardExport.Json.Document
import DashboardExport.Model.Dashboard
import DashboardExport.Model.Query
import DashboardExport.Text.Base64

/-!
# The client

A client asks the service of one workspace for dashboards and queries by id.  An
answer with a status of success is decoded; everything else is a `Problem`.  The
client makes one request for each object and never asks again.

What carries the requests is a `Transport`, so a client is a value, and what
loading needs from it is a `Fetcher`.
-/

set_option autoImplicit false

namespace DashboardExport.Service

open Decoding

/-- What comes back for a request. -/
inductive Reply where
  | response (status : Nat) (body : List UInt8)
  /-- The connection broke. -/
  | broken (reason : String)
  /-- The transport takes no request for such an address. -/
  | refused (message : String)
  deriving DecidableEq

/-- What carries requests to the service. -/
abbrev Transport := Request → Reply

/-- What fetching an object gives, with the events it told. -/
structure Fetched (α : Type) where
  events : List Event
  result : Except Failure α

/-- What loading needs from the service. -/
structure Fetcher where
  dashboard : String → Fetched Dashboard
  query : String → Fetched Query

/-- A client of one workspace. -/
structure Client where
  /-- What the paths of objects are appended to. -/
  base : Address
  /-- The authorization that the client was opened with. -/
  authorization : Option String
  transport : Transport

/-! ## Opening -/

/-- The place of the service below the address of a workspace. -/
def servicePath : String := "/api/2.0/preview/sql"

/-- The address that objects of a workspace stand below. -/
def baseAddress (host : String) : Except AddressFault Address := do
  let workspace := String.ofList (Text.dropTrailing (· == '/') host.toList)
  (← Address.ofText (workspace ++ servicePath)).asDirectory

/-- The first run of characters outside ASCII: the first one, its position and the length. -/
def firstBeyondAscii? (chars : List Char) : Option (Char × Nat × Nat) :=
  let (before, rest) := chars.span fun c => c.toNat < 128
  match rest with
  | [] => none
  | c :: _ => some (c, before.length, (rest.takeWhile fun d => 128 ≤ d.toNat).length)

/-- The authorization that a token gives; an empty token counts as none. -/
def tokenAuthorization (token : Option String) : Except Problem (Option String) :=
  match token with
  | none => .ok none
  | some "" => .ok none
  | some token =>
    let authorization := "Bearer " ++ token
    match firstBeyondAscii? authorization.toList with
    | some (found, position, run) => .error (.badToken found position run)
    | none => .ok (some authorization)

/-- Opens a client. -/
def Client.open? (host : String) (token : Option String) (transport : Transport) :
    Except Problem Client :=
  match baseAddress host with
  | .error fault => .error (.badAddress fault)
  | .ok base =>
    match tokenAuthorization token with
    | .error problem => .error problem
    | .ok authorization => .ok { base, authorization, transport }

/-! ## Requests -/

/-- The path of an object below the service. -/
def objectPath (kind : RemoteKind) (id : String) : String := "/" ++ kind.plural ++ "/" ++ id

/-- The authorization that the user information of an address gives, if there is any. -/
def Address.authorization? (address : Address) : Option String :=
  let (name, secret) := splitFirst ':' address.userInfo
  let secret := secret.getD []
  if name.isEmpty && secret.isEmpty then none
  else
    let pair := Percent.decode (String.ofList name) ++ ":" ++ Percent.decode (String.ofList secret)
    some ("Basic " ++ String.ofList (Text.Base64.encode pair.toUTF8.toList))

namespace Client

/-- The request for an object.  User information in the address comes before the token. -/
def request (client : Client) (kind : RemoteKind) (id : String) :
    Except AddressFault Request := do
  let address ← client.base.extend (objectPath kind id)
  return { address, authorization := address.authorization?.or client.authorization }

/-! ## Answers -/

/-- Whether a status says that the request was successful. -/
def isSuccess (status : Nat) : Bool := 200 ≤ status && status ≤ 299

/-- The value of a body. -/
def decodeBody {α : Type} (kind : RemoteKind) (id : String) (decode : Json → Outcome α)
    (body : List UInt8) : Except Refusal α :=
  match Json.ofDocument body with
  | .error .encoding => .error (.undecodable (.answer kind id) .encoding)
  | .error .syntactic => .error (.undecodable (.answer kind id) .syntactic)
  | .ok value => Refusal.ofOutcome (.answer kind id) (decode value)

/-- What a reply means to the one who asked for an object. -/
def readReply {α : Type} (kind : RemoteKind) (id : String) (decode : Json → Outcome α) :
    Reply → Except Failure α
  | .response status body =>
    if isSuccess status then (decodeBody kind id decode body).mapError .refused
    else if status = 404 then .error (.service (.notFound kind id))
    else .error (.service (.badStatus kind id status (Text.lenient (Text.decodeUtf8 body))))
  | .broken reason => .error (.service (.broken kind id reason))
  | .refused message => .error (.service (.badAddress (.refused message)))

/-- Asks for an object. -/
def fetch {α : Type} (client : Client) (kind : RemoteKind) (decode : Json → Outcome α)
    (id : String) : Fetched α :=
  match client.request kind id with
  | .error fault => ⟨[.fetching kind id], .error (.service (.badAddress fault))⟩
  | .ok request =>
    ⟨[.fetching kind id, .requested request], readReply kind id decode (client.transport request)⟩

/-- The client as loading sees it. -/
def fetcher (client : Client) : Fetcher where
  dashboard := client.fetch .dashboard Dashboard.decode
  query := client.fetch .query Query.decode

end Client

end DashboardExport.Service
