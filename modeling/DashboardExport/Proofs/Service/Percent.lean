import DashboardExport.Proofs.Text.Ascii
import DashboardExport.Proofs.Text.Utf8
import DashboardExport.Service.Percent

/-!
# Escapes read back

What was encoded for a path is read back as it was, unless an escape was already in it
(`decode_encode_eq_iff`): the encoding keeps percent signs, so an escape in the text becomes
an escape in the path, and what is read back is shorter than what was there
(`length_readBack_lt`).  The encoding itself brings in no escape of that kind, because what
it writes for a character begins with a percent sign, which is no digit
(`startsEscape_encode`).
-/

set_option autoImplicit false

namespace DashboardExport.Service.Percent

open DashboardExport.Text

/-! ## Escapes in a text -/

/-- Whether a text begins with a percent sign and two hexadecimal digits. -/
def startsEscape : List Char → Bool
  | '%' :: high :: low :: _ => (hexValue? high).isSome && (hexValue? low).isSome
  | _ => false

/-- Whether an escape begins somewhere in a text. -/
def holdsEscape : List Char → Bool
  | [] => false
  | c :: rest => startsEscape (c :: rest) || holdsEscape rest

theorem startsEscape_of_ne {c : Char} (other : c ≠ '%') (rest : List Char) :
    startsEscape (c :: rest) = false := by
  unfold startsEscape
  split
  · next same => exact absurd (List.cons.inj same).1 other
  · rfl

theorem startsEscape_of_no_digit {c : Char} (other : hexValue? c = none) (rest : List Char) :
    startsEscape ('%' :: c :: rest) = false := by
  cases rest with
  | nil => rfl
  | cons low rest => simp [startsEscape, other]

/-- An escape stands for one byte. -/
theorem exists_of_startsEscape {chars : List Char} (starts : startsEscape chars = true) :
    ∃ high low after value, chars = '%' :: high :: low :: after ∧
      (hexValue? high).isSome = true ∧ (hexValue? low).isSome = true ∧
      ∀ rest, decodeBytes ('%' :: high :: low :: rest) = value :: decodeBytes rest := by
  unfold startsEscape at starts
  split at starts
  · next high low after =>
      obtain ⟨first, second⟩ := Bool.and_eq_true_iff.1 starts
      obtain ⟨a, readHigh⟩ := Option.isSome_iff_exists.1 first
      obtain ⟨b, readLow⟩ := Option.isSome_iff_exists.1 second
      refine ⟨high, low, after, UInt8.ofNat (16 * a + b), rfl, first, second, fun rest => ?_⟩
      rw [decodeBytes, readHigh, readLow]
  · cases starts

theorem decodeBytes_of_startsEscape_eq_false {c : Char} {rest : List Char}
    (starts : startsEscape (c :: rest) = false) :
    decodeBytes (c :: rest) = UInt8.ofNat c.toNat :: decodeBytes rest := by
  by_cases percent : c = '%'
  · subst percent
    cases rest with
    | nil => rfl
    | cons high rest =>
        cases rest with
        | nil => rfl
        | cons low rest =>
            rw [decodeBytes]
            split
            · next first second =>
                simp [startsEscape, first, second] at starts
            · rfl
  · exact decodeBytes.eq_3 c rest fun _ _ _ same _ => percent same

/-! ## Escapes of bytes -/

/-- **The escape of a byte is read back.** -/
theorem decodeBytes_escape (byte : UInt8) (rest : List Char) :
    decodeBytes (escape byte ++ rest) = byte :: decodeBytes rest := by
  have digits : ∀ digit < 16, hexValue? (Nat.digitChar digit).toUpper = some digit := by decide
  have high : byte.toNat / 16 % 16 < 16 := Nat.mod_lt _ (by decide)
  have low : byte.toNat % 16 < 16 := Nat.mod_lt _ (by decide)
  have bounded := byte.toNat_lt
  have whole : 16 * (byte.toNat / 16 % 16) + byte.toNat % 16 = byte.toNat := by omega
  simp only [escape, hexDigits, List.nil_append, List.cons_append, List.map_cons, List.map_nil]
  rw [decodeBytes, digits _ high, digits _ low]
  simp only [whole, UInt8.ofNat_toNat]

theorem decodeBytes_escapes (bytes : List UInt8) (rest : List Char) :
    decodeBytes (bytes.flatMap escape ++ rest) = bytes ++ decodeBytes rest := by
  induction bytes with
  | nil => rfl
  | cons byte bytes ih =>
      rw [List.flatMap_cons, List.append_assoc, decodeBytes_escape, ih, List.cons_append]

/-- The characters of escapes stand for themselves in every part of an address. -/
theorem plain_of_isEscapeChar {plain : Char → Bool}
    (all : ('%' :: "0123456789ABCDEF".toList).all plain = true) :
    ∀ c, isEscapeChar c = true → plain c = true := by
  intro c here
  simp only [isEscapeChar, Bool.or_eq_true, beq_iff_eq, List.contains_iff_mem] at here
  exact List.all_eq_true.1 all c (List.mem_cons.2 here)

/-! ## Paths -/

theorem encode_cons (plain : Char → Bool) (c : Char) (rest : List Char) :
    encode plain (c :: rest) = encodeChar plain c ++ encode plain rest := List.flatMap_cons

theorem encode_append (plain : Char → Bool) (left right : List Char) :
    encode plain (left ++ right) = encode plain left ++ encode plain right :=
  List.flatMap_append

theorem length_le_length_encode (plain : Char → Bool) (chars : List Char) :
    chars.length ≤ (encode plain chars).length := by
  induction chars with
  | nil => exact Nat.le_refl 0
  | cons c rest ih =>
      have some : 0 < (encodeChar plain c).length := by
        unfold encodeChar
        split
        · exact Nat.one_pos
        · obtain ⟨byte, bytes, same⟩ :=
            List.exists_cons_of_ne_nil (String.utf8EncodeChar_ne_nil (c := c))
          rw [same]
          exact Nat.succ_pos _
      rw [encode_cons, List.length_append, List.length_cons]
      omega

/-- The characters that stand for themselves in a path are ASCII characters. -/
theorem ascii_of_graphicExcept {excluded : List Char} {c : Char}
    (plain : graphicExcept excluded c = true) : c.toNat < 128 := by
  simp only [graphicExcept, Bool.and_eq_true, decide_eq_true_eq] at plain
  omega

theorem inPath_of_hexValue? {c : Char} (digit : (hexValue? c).isSome = true) :
    inPath c = true := by
  have small : c.toNat < 128 := by
    simp only [hexValue?, Char.le_def, Bool.and_eq_true, decide_eq_true_eq] at digit
    split at digit
    · next bounds => exact ascii_of_le bounds.2 (by decide)
    split at digit
    · next bounds => exact ascii_of_le bounds.2 (by decide)
    split at digit
    · next bounds => exact ascii_of_le bounds.2 (by decide)
    · cases digit
  exact forall_ascii (fun d => (hexValue? d).isSome = true → inPath d = true) (by decide) small
    digit

/-- What is written for a character that does not stand for itself. -/
theorem exists_encodeChar_eq {c : Char} (other : inPath c = false) :
    ∃ rest, encodeChar inPath c = '%' :: rest := by
  obtain ⟨byte, bytes, same⟩ := List.exists_cons_of_ne_nil (String.utf8EncodeChar_ne_nil (c := c))
  refine ⟨(hexDigits 2 byte.toNat).map Char.toUpper ++ bytes.flatMap escape, ?_⟩
  rw [encodeChar, if_neg (by simp [other]), same, List.flatMap_cons]
  rfl

/-- **The encoding brings in no escape and takes none away**, as far as the first character goes. -/
theorem startsEscape_encode (c : Char) (rest : List Char) :
    startsEscape (c :: encode inPath rest) = startsEscape (c :: rest) := by
  by_cases percent : c = '%'
  · subst percent
    -- A character that is encoded is no digit, and what is written for it begins with none.
    have other {d : Char} (encoded : inPath d = false) : hexValue? d = none :=
      Option.not_isSome_iff_eq_none.1 fun digit => by
        rw [inPath_of_hexValue? digit] at encoded
        cases encoded
    have percent : hexValue? '%' = none := by decide
    cases rest with
    | nil => rfl
    | cons high rest =>
        rw [encode_cons]
        by_cases first : inPath high = true
        · rw [encodeChar, if_pos first, List.singleton_append]
          cases rest with
          | nil => rfl
          | cons low rest =>
              rw [encode_cons]
              by_cases second : inPath low = true
              · rw [encodeChar, if_pos second]
                rfl
              · obtain ⟨written, same⟩ := exists_encodeChar_eq (Bool.eq_false_iff.2 second)
                rw [same, List.cons_append]
                simp [startsEscape, percent, other (Bool.eq_false_iff.2 second)]
        · obtain ⟨written, same⟩ := exists_encodeChar_eq (Bool.eq_false_iff.2 first)
          rw [same, List.cons_append, startsEscape_of_no_digit percent,
            startsEscape_of_no_digit (other (Bool.eq_false_iff.2 first))]
  · rw [startsEscape_of_ne percent, startsEscape_of_ne percent]

/-! ## Reading back -/

/-- What a text is read as after it was encoded for a path. -/
def readBack (chars : List Char) : List (Option Char) :=
  decodeUtf8 (decodeBytes (encode inPath chars))

theorem decode_encode (chars : List Char) :
    decode (String.ofList (encode inPath chars)) = lenient (readBack chars) := by
  rw [decode, String.toList_ofList]
  rfl

/-- **A character where no escape begins is read back.** -/
theorem readBack_cons {c : Char} {rest : List Char} (starts : startsEscape (c :: rest) = false) :
    readBack (c :: rest) = some c :: readBack rest := by
  unfold readBack
  rw [encode_cons]
  by_cases plain : inPath c = true
  · have ascii : c.toNat < 128 := ascii_of_graphicExcept plain
    have byte : (UInt8.ofNat c.toNat).toNat = c.toNat := by
      rw [UInt8.toNat_ofNat']
      exact Nat.mod_eq_of_lt (by omega)
    rw [encodeChar, if_pos plain, List.singleton_append,
      decodeBytes_of_startsEscape_eq_false (by rw [startsEscape_encode, starts]),
      decodeUtf8_ascii (by rw [byte]; exact ascii), byte, Char.ofNat_toNat]
  · rw [encodeChar, if_neg plain, decodeBytes_escapes, decodeUtf8_utf8EncodeChar]

/-- Where an escape begins, three characters are read as at most one. -/
theorem exists_length_readBack_le {chars : List Char} (starts : startsEscape chars = true) :
    ∃ high low after, chars = '%' :: high :: low :: after ∧
      (readBack chars).length ≤ (readBack after).length + 1 := by
  obtain ⟨high, low, after, value, same, first, second, reads⟩ := exists_of_startsEscape starts
  refine ⟨high, low, after, same, ?_⟩
  have plain {c : Char} (here : inPath c = true) : encodeChar inPath c = [c] := if_pos here
  have encoded : encode inPath chars = '%' :: high :: low :: encode inPath after := by
    rw [same, encode_cons, encode_cons, encode_cons, plain (by decide),
      plain (inPath_of_hexValue? first), plain (inPath_of_hexValue? second)]
    rfl
  rw [readBack, encoded, reads]
  exact length_decodeUtf8_cons_le value _

theorem length_readBack_le (chars : List Char) : (readBack chars).length ≤ chars.length := by
  induction whole : chars.length using Nat.strongRecOn generalizing chars with
  | ind size ih =>
      cases chars with
      | nil => exact Nat.zero_le _
      | cons c rest =>
          cases starts : startsEscape (c :: rest) with
          | false =>
              have here : rest.length + 1 = size := whole
              have later := ih rest.length (by omega) rest rfl
              rw [readBack_cons starts, List.length_cons]
              omega
          | true =>
              obtain ⟨high, low, after, same, shorter⟩ := exists_length_readBack_le starts
              have three : after.length + 3 = size := by rw [← whole, same]; rfl
              have later := ih after.length (by omega) after rfl
              omega

/-- **An escape is read as fewer characters than it has.** -/
theorem length_readBack_lt {chars : List Char} (holds : holdsEscape chars = true) :
    (readBack chars).length < chars.length := by
  induction chars with
  | nil => cases holds
  | cons c rest ih =>
      cases starts : startsEscape (c :: rest) with
      | false =>
          rw [holdsEscape, starts, Bool.false_or] at holds
          have later := ih holds
          rw [readBack_cons starts, List.length_cons, List.length_cons]
          omega
      | true =>
          obtain ⟨high, low, after, same, shorter⟩ := exists_length_readBack_le starts
          have later := length_readBack_le after
          rw [same] at shorter ⊢
          simp only [List.length_cons] at shorter ⊢
          omega

theorem readBack_of_holdsEscape_eq_false {chars : List Char} (holds : holdsEscape chars = false) :
    readBack chars = chars.map some := by
  induction chars with
  | nil => rfl
  | cons c rest ih =>
      obtain ⟨starts, later⟩ := Bool.or_eq_false_iff.1 holds
      rw [readBack_cons starts, ih later, List.map_cons]

theorem length_decode_encode (chars : List Char) :
    (decode (String.ofList (encode inPath chars))).toList.length = (readBack chars).length := by
  rw [decode_encode, lenient, String.toList_ofList, List.length_map]

/-- **What was encoded for a path is read back as it was if and only if it holds no escape.** -/
theorem decode_encode_eq_iff (chars : List Char) :
    decode (String.ofList (encode inPath chars)) = String.ofList chars ↔
      holdsEscape chars = false := by
  constructor
  · intro same
    refine Bool.eq_false_iff.2 fun holds => ?_
    have fewer := length_readBack_lt holds
    rw [← length_decode_encode, same, String.toList_ofList] at fewer
    exact Nat.lt_irrefl _ fewer
  · intro holds
    rw [decode_encode, readBack_of_holdsEscape_eq_false holds]
    exact lenient_of_strict.2

example : decode (String.ofList (encode inPath "50% é/%zz".toList)) = "50% é/%zz" :=
  (decode_encode_eq_iff _).2 (by decide +kernel)

end DashboardExport.Service.Percent
