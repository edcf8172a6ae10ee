import DashboardExport.Json.Reader
import DashboardExport.Text.Encoding

/-!
# JSON documents as bytes

A response body carries no word on its encoding; it is read off the first bytes:
a byte order mark if there is one, otherwise the places of the zero bytes among
the first four, because the first two characters of a JSON text are ASCII.  A document may hold lone
surrogates.
-/

set_option autoImplicit false

namespace DashboardExport.Json

/-- Why a body is no JSON document. -/
inductive DocumentError where
  /-- The bytes are malformed in their encoding. -/
  | encoding
  /-- The text is not JSON. -/
  | syntactic
  deriving DecidableEq

/-- The characters of a document, decoded as its first bytes tell. -/
def decodeDocument (bytes : List UInt8) : List (Option Char) :=
  match bytes with
  | 0x00 :: 0x00 :: 0xFE :: 0xFF :: rest => Text.decodeUtf32 .bigEndian rest
  | 0xFF :: 0xFE :: 0x00 :: 0x00 :: rest => Text.decodeUtf32 .littleEndian rest
  | 0xFE :: 0xFF :: rest => Text.decodeUtf16 .bigEndian rest
  | 0xFF :: 0xFE :: rest => Text.decodeUtf16 .littleEndian rest
  | 0xEF :: 0xBB :: 0xBF :: rest => Text.decodeUtf8WithSurrogates [] rest
  | a :: b :: c :: d :: _ =>
    if a == 0 then
      if b == 0 then Text.decodeUtf32 .bigEndian bytes else Text.decodeUtf16 .bigEndian bytes
    else if b == 0 then
      if c == 0 && d == 0 then Text.decodeUtf32 .littleEndian bytes
      else Text.decodeUtf16 .littleEndian bytes
    else Text.decodeUtf8WithSurrogates [] bytes
  | [a, b] =>
    if a == 0 then Text.decodeUtf16 .bigEndian bytes
    else if b == 0 then Text.decodeUtf16 .littleEndian bytes
    else Text.decodeUtf8WithSurrogates [] bytes
  | _ => Text.decodeUtf8WithSurrogates [] bytes

/-- The value of a document. -/
def ofDocument (bytes : List UInt8) : Except DocumentError Json :=
  match Text.strict? (decodeDocument bytes) with
  | none => .error .encoding
  | some text =>
    match parse? text with
    | some value => .ok value
    | none => .error .syntactic

end DashboardExport.Json
