import DashboardExport.Text.Encoding

/-!
# Base 64

Bytes written six bits to a character, with equals signs at the end that fill up
groups of four.  Reading skips characters that are not in the alphabet.
-/

set_option autoImplicit false

namespace DashboardExport.Text.Base64

/-- The character for six bits. -/
def digit (value : Nat) : Char :=
  if value < 26 then Char.ofNat ('A'.toNat + value)
  else if value < 52 then Char.ofNat ('a'.toNat + (value - 26))
  else if value < 62 then Char.ofNat ('0'.toNat + (value - 52))
  else if value = 62 then '+'
  else '/'

/-- The six bits of a character. -/
def digitValue? (c : Char) : Option Nat :=
  if 'A' ≤ c && c ≤ 'Z' then some (c.toNat - 'A'.toNat)
  else if 'a' ≤ c && c ≤ 'z' then some (c.toNat - 'a'.toNat + 26)
  else if '0' ≤ c && c ≤ '9' then some (c.toNat - '0'.toNat + 52)
  else if c == '+' then some 62
  else if c == '/' then some 63
  else none

/-- **The characters of the alphabet are read back.** -/
theorem digitValue?_digit : ∀ value < 64, digitValue? (digit value) = some value := by decide

/-- The written form of bytes. -/
def encode : List UInt8 → List Char
  | [] => []
  | [a] => [digit (a.toNat / 4), digit (a.toNat % 4 * 16), '=', '=']
  | [a, b] =>
    [digit (a.toNat / 4), digit (a.toNat % 4 * 16 + b.toNat / 16), digit (b.toNat % 16 * 4), '=']
  | a :: b :: c :: rest =>
    digit (a.toNat / 4) :: digit (a.toNat % 4 * 16 + b.toNat / 16) ::
      digit (b.toNat % 16 * 4 + c.toNat / 64) :: digit (c.toNat % 64) :: encode rest

/-- Reads bytes.  The values of an open group are kept, and the equals signs right behind them are
counted; a group of two or three that is filled up ends the text. -/
def decodeFrom : List Nat → Nat → List Char → Option (List UInt8)
  | [], _, [] => some []
  | _, _, [] => none
  | group, fill, c :: rest =>
    if c == '=' then
      match group, fill with
      | [a, b], 1 => some [UInt8.ofNat (a * 4 + b / 16)]
      | [a, b, d], _ => some [UInt8.ofNat (a * 4 + b / 16), UInt8.ofNat (b % 16 * 16 + d / 4)]
      | [a, b], _ => decodeFrom [a, b] (fill + 1) rest
      | _, _ => decodeFrom group fill rest
    else
      match digitValue? c with
      | none => decodeFrom group fill rest
      | some value =>
        match group with
        | [a, b, d] =>
          (decodeFrom [] 0 rest).map fun bytes =>
            UInt8.ofNat (a * 4 + b / 16) :: UInt8.ofNat (b % 16 * 16 + d / 4) ::
              UInt8.ofNat (d % 4 * 64 + value) :: bytes
        | _ => decodeFrom (group ++ [value]) 0 rest

/-- The bytes that a text stands for. -/
def decode? (chars : List Char) : Option (List UInt8) := decodeFrom [] 0 chars

end DashboardExport.Text.Base64
