import DashboardExport.Text.Encoding
import DashboardExport.Text.Hex

/-!
# Percent-encoding

Addresses are ASCII texts.  A character that a part of an address cannot hold is
written as its UTF-8 bytes, each as a percent sign and two hexadecimal digits.
Which characters stand for themselves differs from part to part; the percent sign
itself does in all of them, so an escape that is already there is kept and
encoding twice is encoding once (`encode_encode`).
-/

set_option autoImplicit false

namespace DashboardExport.Service.Percent

/-- The escape of a byte. -/
def escape (byte : UInt8) : List Char :=
  '%' :: (Text.hexDigits 2 byte.toNat).map Char.toUpper

/-- A character in a part where the given ones stand for themselves. -/
def encodeChar (plain : Char → Bool) (c : Char) : List Char :=
  if plain c then [c] else (String.utf8EncodeChar c).flatMap escape

/-- A text in a part where the given characters stand for themselves. -/
def encode (plain : Char → Bool) (chars : List Char) : List Char :=
  chars.flatMap (encodeChar plain)

/-- A text whose characters all stand for themselves is not changed. -/
theorem encode_of_plain {plain : Char → Bool} {chars : List Char}
    (h : ∀ c ∈ chars, plain c = true) : encode plain chars = chars := by
  induction chars with
  | nil => rfl
  | cons c rest ih =>
    have head : plain c = true := h c List.mem_cons_self
    have tail := ih fun d hd => h d (List.mem_cons_of_mem _ hd)
    simp only [encode, List.flatMap_cons, encodeChar, head, if_true] at tail ⊢
    rw [tail]
    rfl

/-! ## Which characters stand for themselves -/

/-- The graphic ASCII characters that are not in the list. -/
def graphicExcept (excluded : List Char) (c : Char) : Bool :=
  0x20 < c.toNat && c.toNat < 0x7F && !excluded.contains c

/-- In a path. -/
def inPath : Char → Bool := graphicExcept ['"', '#', '<', '>', '?', '`', '{', '}']

/-- In a query. -/
def inQuery : Char → Bool := graphicExcept ['"', '#', '<', '>']

/-- In a fragment. -/
def inFragment : Char → Bool := graphicExcept ['"', '<', '>', '`']

/-- In the user information before a host. -/
def inUserInfo : Char → Bool :=
  graphicExcept ['"', '#', '<', '>', '?', '`', '{', '}', '/', ';', '=', '@', '[', '\\', ']', '^',
    '|']

/-- In the name of a host. -/
def inHost : Char → Bool := graphicExcept ['#', '/', ':', '<', '>', '?', '@', '[', ']', '^']

/-! ## Encoding twice -/

/-- The characters that escapes are made of. -/
def isEscapeChar (c : Char) : Bool := c == '%' || "0123456789ABCDEF".toList.contains c

theorem isEscapeChar_of_mem_escape {byte : UInt8} {c : Char} (h : c ∈ escape byte) :
    isEscapeChar c = true := by
  have digits : ∀ digit < 16, isEscapeChar (Nat.digitChar digit).toUpper = true := by decide
  rcases List.mem_cons.1 h with rfl | h
  · rfl
  · obtain ⟨d, hd, rfl⟩ := List.mem_map.1 h
    obtain ⟨digit, small, rfl⟩ := Text.exists_digit_of_mem_hexDigits hd
    exact digits digit small

/-- What is written is made of characters that stand for themselves, where those of escapes do. -/
theorem plain_of_mem_encode {plain : Char → Bool}
    (escapes : ∀ c, isEscapeChar c = true → plain c = true) {chars : List Char} {c : Char}
    (member : c ∈ encode plain chars) : plain c = true := by
  obtain ⟨d, -, written⟩ := List.mem_flatMap.1 member
  unfold encodeChar at written
  split at written
  · next here => rwa [List.mem_singleton.1 written]
  · obtain ⟨byte, -, inEscape⟩ := List.mem_flatMap.1 written
    exact escapes c (isEscapeChar_of_mem_escape inEscape)

/-- **Encoding twice is encoding once**, where the characters of escapes stand for themselves. -/
theorem encode_encode {plain : Char → Bool} (escapes : ∀ c, isEscapeChar c = true → plain c = true)
    (chars : List Char) : encode plain (encode plain chars) = encode plain chars :=
  encode_of_plain fun _ member => plain_of_mem_encode escapes member

/-! ## Decoding -/

/-- The bytes of an ASCII text with its escapes resolved; a percent sign that starts no escape
stands for itself. -/
def decodeBytes : List Char → List UInt8
  | [] => []
  | '%' :: a :: b :: rest =>
    match Text.hexValue? a, Text.hexValue? b with
    | some high, some low => UInt8.ofNat (16 * high + low) :: decodeBytes rest
    | _, _ => UInt8.ofNat '%'.toNat :: decodeBytes (a :: b :: rest)
  | c :: rest => UInt8.ofNat c.toNat :: decodeBytes rest

/-- The text with its escapes resolved, read as UTF-8. -/
def decode (text : String) : String :=
  Text.lenient (Text.decodeUtf8 (decodeBytes text.toList))

end DashboardExport.Service.Percent
