import DashboardExport.Text.Surrogate

/-!
# Texts as bytes

The encodings a response body or a configuration file can have.  A decoder gives
one entry for every character and one for every malformed sequence, so the strict
reading (all entries must be characters) and the lenient one (a malformed sequence
becomes the replacement character) are two views of the same list.

JSON documents may hold lone surrogates, in each of their encodings; these are read
as stand-ins.  A text that holds one cannot be written in UTF-8.
-/

set_option autoImplicit false

namespace DashboardExport.Text

/-- Whether a byte continues a UTF-8 sequence. -/
def isContinuation (byte : UInt8) : Bool := 0x80 ≤ byte && byte ≤ 0xBF

/-- Whether the second byte fits the first one of a UTF-8 sequence of three or four bytes: overlong
forms, surrogates and numbers beyond the last code point are cut off here. -/
def fitsSecond (first second : UInt8) : Bool :=
  isContinuation second &&
    !(first == 0xE0 && second < 0xA0) && !(first == 0xED && 0xA0 ≤ second) &&
    !(first == 0xF0 && second < 0x90) && !(first == 0xF4 && 0x90 ≤ second)

/-- The character with the given leading bits and continuation bytes. -/
def joinBits (leading : Nat) (continuation : List UInt8) : Char :=
  Char.ofNat (continuation.foldl (fun value byte => 64 * value + byte.toNat % 64) leading)

/-- UTF-8.  A malformed sequence extends over the longest start of a well-formed one. -/
def decodeUtf8 : List UInt8 → List (Option Char)
  | [] => []
  | a :: rest =>
    if a < 0x80 then some (Char.ofNat a.toNat) :: decodeUtf8 rest
    else if 0xC2 ≤ a && a ≤ 0xDF then
      match rest with
      | [] => [none]
      | b :: rest' =>
        if isContinuation b then some (joinBits (a.toNat % 32) [b]) :: decodeUtf8 rest'
        else none :: decodeUtf8 (b :: rest')
    else if 0xE0 ≤ a && a ≤ 0xEF then
      match rest with
      | [] => [none]
      | b :: rest' =>
        if fitsSecond a b then
          match rest' with
          | [] => [none]
          | c :: rest'' =>
            if isContinuation c then some (joinBits (a.toNat % 16) [b, c]) :: decodeUtf8 rest''
            else none :: decodeUtf8 (c :: rest'')
        else none :: decodeUtf8 (b :: rest')
    else if 0xF0 ≤ a && a ≤ 0xF4 then
      match rest with
      | [] => [none]
      | b :: rest' =>
        if fitsSecond a b then
          match rest' with
          | [] => [none]
          | c :: rest'' =>
            if isContinuation c then
              match rest'' with
              | [] => [none]
              | d :: rest''' =>
                if isContinuation d then
                  some (joinBits (a.toNat % 8) [b, c, d]) :: decodeUtf8 rest'''
                else none :: decodeUtf8 (d :: rest''')
            else none :: decodeUtf8 (c :: rest'')
        else none :: decodeUtf8 (b :: rest')
    else none :: decodeUtf8 rest

/-- The characters of a text, read off its bytes in one pass. -/
def charsOf (text : String) : List Char := (decodeUtf8 text.toUTF8.data.toList).filterMap id

/-- A text in UTF-8. -/
def encodeUtf8 (text : String) : Except Unencodable (List UInt8) :=
  match unencodable? isStandIn (charsOf text) with
  | some fault => .error fault
  | none => .ok text.toUTF8.toList

/-- Characters that were read from outside, which cannot be stand-ins. -/
def received (decoded : List (Option Char)) : List (Option Char) :=
  decoded.map fun entry => entry.map fun c => charOfCode c.toNat

/-- The lone surrogate that three bytes stand for, if they encode one as characters are encoded. -/
def surrogateOfBytes? (a b c : UInt8) : Option Nat :=
  if a == 0xED && 0xA0 ≤ b && isContinuation b && isContinuation c then
    some (0xD000 + 64 * (b.toNat % 64) + c.toNat % 64)
  else none

/-- UTF-8 in which lone surrogates are encoded as characters are.  The bytes since the last one of
them are kept in reverse. -/
def decodeUtf8WithSurrogates (since : List UInt8) : List UInt8 → List (Option Char)
  | a :: b :: c :: rest =>
    match surrogateOfBytes? a b c with
    | some code =>
      received (decodeUtf8 since.reverse) ++
        some (charOfCode code) :: decodeUtf8WithSurrogates [] rest
    | none => decodeUtf8WithSurrogates (a :: since) (b :: c :: rest)
  | rest => received (decodeUtf8 (since.reverse ++ rest))

/-- The order of the bytes in a unit of two or four bytes. -/
inductive ByteOrder where
  | bigEndian
  | littleEndian
  deriving DecidableEq

/-- The number that a unit's bytes stand for. -/
def ByteOrder.value (order : ByteOrder) (bytes : List UInt8) : Nat :=
  let significant := match order with
    | .bigEndian => bytes
    | .littleEndian => bytes.reverse
  significant.foldl (fun value byte => 256 * value + byte.toNat) 0

/-- The two-byte units of a text; `none` at the end when a byte is left over. -/
def units16 (order : ByteOrder) : List UInt8 → List (Option Nat)
  | [] => []
  | [_] => [none]
  | a :: b :: rest => some (order.value [a, b]) :: units16 order rest

/-- Joins surrogate pairs; a surrogate without its partner stays alone. -/
def joinUnits : List (Option Nat) → List (Option Char)
  | [] => []
  | none :: rest => none :: joinUnits rest
  | some high :: some low :: rest =>
    if 0xD800 ≤ high && high ≤ 0xDBFF && 0xDC00 ≤ low && low ≤ 0xDFFF then
      some (charOfCode (0x10000 + (high - 0xD800) * 0x400 + (low - 0xDC00))) :: joinUnits rest
    else some (charOfCode high) :: joinUnits (some low :: rest)
  | some unit :: rest => some (charOfCode unit) :: joinUnits rest

/-- UTF-16 in a known byte order. -/
def decodeUtf16 (order : ByteOrder) (bytes : List UInt8) : List (Option Char) :=
  joinUnits (units16 order bytes)

/-- UTF-32 in a known byte order. -/
def decodeUtf32 (order : ByteOrder) : List UInt8 → List (Option Char)
  | [] => []
  | a :: b :: c :: d :: rest =>
    let code := order.value [a, b, c, d]
    (if code < 0x110000 then some (charOfCode code) else none) :: decodeUtf32 order rest
  | _ => [none]

/-- The text, if every sequence is well formed. -/
def strict? (decoded : List (Option Char)) : Option String :=
  (decoded.mapM id).map String.ofList

/-- The text with every malformed sequence replaced. -/
def lenient (decoded : List (Option Char)) : String :=
  String.ofList (decoded.map fun entry => entry.getD replacement)

/-- The lenient reading agrees with the strict one where there is one. -/
theorem lenient_of_strict {chars : List Char} :
    strict? (chars.map some) = some (String.ofList chars) ∧
      lenient (chars.map some) = String.ofList chars := by
  constructor
  · have h : (chars.map some).mapM id = some chars := by
      induction chars with
      | nil => rfl
      | cons c rest ih => simp [List.mapM_cons, ih]
    simp [strict?, h]
  · simp [lenient, Function.comp_def]

end DashboardExport.Text
