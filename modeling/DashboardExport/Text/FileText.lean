import DashboardExport.Text.Encoding

/-!
# Texts of files

A file is read as UTF-8, and each of the usual line ends is read as a line feed.

The bytes are decoded in chunks, as the reader asks for more.  So of a file that is not
UTF-8 the reader has the characters of some chunks before it is told, and it can stop
over them first (`textBefore`).
-/

set_option autoImplicit false

namespace DashboardExport.Text

/-- Every carriage return, with the line feed behind it if there is one, becomes a line feed. -/
def unifyLineEnds : List Char → List Char
  | [] => []
  | '\r' :: '\n' :: rest => '\n' :: unifyLineEnds rest
  | c :: rest => (if c == '\r' then '\n' else c) :: unifyLineEnds rest

/-! ## Files that are not UTF-8 -/

/-- The number of bytes that are decoded at a time. -/
def chunkSize : Nat := 8192

/-- Whether bytes begin a character that has further bytes. -/
def isUnfinished : List UInt8 → Bool
  | [a] => 0xC2 ≤ a && a ≤ 0xF4
  | [a, b] => 0xE0 ≤ a && a ≤ 0xF4 && fitsSecond a b
  | [a, b, c] => 0xF0 ≤ a && a ≤ 0xF4 && fitsSecond a b && isContinuation c
  | _ => false

/-- The characters in front of the first malformed sequence. -/
def soundChars (contents : List UInt8) : List Char :=
  (decodeUtf8 contents).takeWhile Option.isSome |>.filterMap id

/-- The number of bytes in front of the one that shows a sequence to be malformed: the sequence
begins behind characters of the given size, and goes on as long as it could be a character. -/
def faultPlace (contents : List UInt8) (size : Nat) : Nat :=
  let sequence := contents.drop size
  size + ((List.range 4).filter fun count => isUnfinished (sequence.take count)).length

/-- The characters that are decoded before a file is found not to be UTF-8: those of the chunks
before that in which it shows.  A character that is cut off by the end of the file only shows behind
the last chunk. -/
def charsBefore (contents : List UInt8) : List Char :=
  let chars := soundChars contents
  let size := (String.ofList chars).utf8ByteSize
  if isUnfinished (contents.drop size) then chars
  else soundChars (contents.take (chunkSize * (faultPlace contents size / chunkSize)))

/-- The text that is decoded before a file is found not to be UTF-8.  A carriage return at its end
is kept back, because a line feed could follow. -/
def textBefore (contents : List UInt8) : String :=
  let chars := charsBefore contents
  let whole := if chars.getLast? = some '\r' then chars.dropLast else chars
  String.ofList (unifyLineEnds (whole.map fun c => charOfCode c.toNat))

/-- The text of a file; of a file that is not UTF-8, what is decoded before that is found. -/
def decodeFile (contents : List UInt8) : Except String String :=
  match strict? (received (decodeUtf8 contents)) with
  | some text => .ok (String.ofList (unifyLineEnds text.toList))
  | none => .error (textBefore contents)

end DashboardExport.Text
