import DashboardExport.Model.Refusal
import DashboardExport.Service.Address

/-!
# Problems with the service

What can go wrong between asking for an object and having the body of an answer.
A missing object, any other status than success, and a broken connection end an
export in good order; an address or a token that no request can be made with ends
the program.
-/

set_option autoImplicit false

namespace DashboardExport.Service

/-- What can go wrong with a request. -/
inductive Problem where
  | notFound (kind : RemoteKind) (id : String)
  /-- An answer with another status than success, and its text. -/
  | badStatus (kind : RemoteKind) (id : String) (status : Nat) (text : String)
  /-- The connection broke. -/
  | broken (kind : RemoteKind) (id : String) (reason : String)
  | badAddress (fault : AddressFault)
  /-- Characters of the authorization that are not ASCII, the first of them with its position, and
  how many there are in a row. -/
  | badToken (found : Char) (position run : Nat)
  deriving DecidableEq

/-- The words for a request that failed. -/
def failedRequest (kind : RemoteKind) (id reason : String) : String :=
  "Failed to fetch " ++ kind.noun ++ " " ++ Text.literal id ++ ": " ++ reason

/-- The words for characters that an encoding cannot hold. -/
def unencodable (found : Char) (position run : Nat) : String :=
  (if run ≤ 1 then
    "'ascii' codec can't encode character '" ++ String.ofList (Text.codeEscape found) ++
      "' in position " ++ toString position
  else
    "'ascii' codec can't encode characters in position " ++ toString position ++ "-" ++
      toString (position + run - 1)) ++ ": ordinal not in range(128)"

namespace Problem

def message : Problem → String
  | .notFound kind id => failedRequest kind id "not found"
  | .badStatus kind id status text =>
    failedRequest kind id ("HTTP " ++ toString status ++ ": " ++ text)
  | .broken kind id reason => failedRequest kind id reason
  | .badAddress fault => fault.message
  | .badToken found position run => unencodable found position run

/-- Whether a problem ends an export in good order. -/
def reported : Problem → Bool
  | .badAddress _ => false
  | .badToken .. => false
  | _ => true

end Problem

end DashboardExport.Service
