import DashboardExport.Json.Printer
import DashboardExport.Json.Reader
import Mathlib.Tactic.SplitIfs

/-!
# Strings are read back

Reading a quoted text gives the text and leaves what follows the closing mark
(`readChars_quoted`).  The quoted form of a character is read back on its own, whatever
follows it, so the proof goes character by character.

A quoted text stays on one line and has no control character in it
(`visible_quotedChars`).
-/

set_option autoImplicit false

namespace DashboardExport.Json

open Text

/-! ## Escapes -/

theorem hexValue?_digitChar : ∀ {digit : Nat}, digit < 16 →
    hexValue? (Nat.digitChar digit) = some digit := by
  decide

/-- Four hexadecimal digits are read back as their number. -/
theorem hexUnit?_hexDigits {n : Nat} (small : n < 0x10000) :
    ∃ a b c d, hexDigits 4 n = [a, b, c, d] ∧ hexUnit? a b c d = some n := by
  have digit (k : Nat) : k % 16 < 16 := Nat.mod_lt k (by decide)
  refine ⟨_, _, _, _, rfl, ?_⟩
  simp only [hexUnit?, readHex, hexValue?_digitChar (digit _), Option.map_some, Option.some.injEq]
  omega

/-- A unit that opens no pair is a character of its own. -/
theorem readChars_unit {a b c d : Char} {unit : Nat} (read : hexUnit? a b c d = some unit)
    (single : isHigh unit = false) (rest : List Char) :
    readChars ('\\' :: 'u' :: a :: b :: c :: d :: rest) =
      (readChars rest).map fun r => (charOfCode unit :: r.1, r.2) := by
  rw [readChars.eq_def]
  simp only [read]
  split
  · next absent => cases absent
  · next same =>
      cases same
      rw [single]
  · next same _ =>
      cases same
      rfl

/-- A character that needs no escape. -/
theorem readChars_plain {c : Char} (mark : c ≠ '"') (escape : c ≠ '\\') (control : ¬ c.toNat < 0x20)
    (rest : List Char) : readChars (c :: rest) = (readChars rest).map fun r => (c :: r.1, r.2) := by
  rw [readChars.eq_def]
  split
  · next empty => cases empty
  · next same => exact absurd (List.cons.inj same).1 mark
  · next same => exact absurd (List.cons.inj same).1 escape
  · next same => exact absurd (List.cons.inj same).1 escape
  · next same =>
      cases same
      simp [control, escape]

/-! ## Characters -/

theorem charOfCode_control {c : Char} (control : c.toNat < 0x20) : charOfCode c.toNat = c :=
  charOfCode_toNat (isStandIn_of_lt (Nat.lt_trans control (by decide)))

/-- **A quoted character is read back**, whatever follows it. -/
theorem readChars_quotedChar (c : Char) (rest : List Char) :
    readChars (quotedChar c ++ rest) = (readChars rest).map fun r => (c :: r.1, r.2) := by
  rw [quotedChar]
  split_ifs with special lineEnd carriageReturn tab backspace formFeed control
  · rw [Bool.or_eq_true, beq_iff_eq, beq_iff_eq] at special
    rcases special with rfl | rfl
    · rfl
    · rfl
  · rw [beq_iff_eq.1 lineEnd]
    rfl
  · rw [beq_iff_eq.1 carriageReturn]
    rfl
  · rw [beq_iff_eq.1 tab]
    rfl
  · rw [← Char.ofNat_toNat c, beq_iff_eq.1 backspace]
    rfl
  · rw [← Char.ofNat_toNat c, beq_iff_eq.1 formFeed]
    rfl
  · obtain ⟨x, y, z, w, digits, read⟩ := hexUnit?_hexDigits (n := c.toNat) (by omega)
    have single : isHigh c.toNat = false := by
      simp only [isHigh, Bool.and_eq_false_iff, decide_eq_false_iff_not]
      omega
    rw [digits]
    exact (readChars_unit read single rest).trans (by rw [charOfCode_control control])
  · rw [Bool.or_eq_true, beq_iff_eq, beq_iff_eq, not_or] at special
    exact readChars_plain special.1 special.2 control rest

/-- **A quoted text is read back.** -/
theorem readChars_quoted (chars rest : List Char) :
    readChars (chars.flatMap quotedChar ++ '"' :: rest) = some (chars, rest) := by
  induction chars with
  | nil => rfl
  | cons c chars ih => rw [List.flatMap_cons, List.append_assoc, readChars_quotedChar, ih]; rfl

/-! ## Shape -/

/-- No control characters of ASCII. -/
def Visible (chars : List Char) : Prop := ∀ c ∈ chars, 0x20 ≤ c.toNat

instance (chars : List Char) : Decidable (Visible chars) :=
  List.decidableBAll (fun c : Char => 0x20 ≤ c.toNat) chars

theorem visible_cons {c : Char} {chars : List Char} :
    Visible (c :: chars) ↔ 0x20 ≤ c.toNat ∧ Visible chars := List.forall_mem_cons

theorem visible_append {left right : List Char} :
    Visible (left ++ right) ↔ Visible left ∧ Visible right := List.forall_mem_append

theorem visible_digitChar : ∀ {digit : Nat}, digit < 16 → 0x20 ≤ (Nat.digitChar digit).toNat := by
  decide

theorem visible_quotedChar (c : Char) : Visible (quotedChar c) := by
  rw [quotedChar]
  split_ifs with special lineEnd carriageReturn tab backspace formFeed control
  · rw [Bool.or_eq_true, beq_iff_eq, beq_iff_eq] at special
    rcases special with rfl | rfl
    · decide
    · decide
  · decide
  · decide
  · decide
  · decide
  · decide
  · refine visible_cons.2 ⟨by decide, visible_cons.2 ⟨by decide, fun d member => ?_⟩⟩
    obtain ⟨digit, small, rfl⟩ := exists_digit_of_mem_hexDigits member
    exact visible_digitChar small
  · intro d member
    rw [List.mem_singleton.1 member]
    exact Nat.le_of_not_lt control

/-- **A quoted text has no control character**, so no line end. -/
theorem visible_quotedChars (chars : List Char) : Visible (quotedChars chars) := by
  refine visible_cons.2 ⟨by decide, visible_append.2 ⟨fun d member => ?_, by decide⟩⟩
  obtain ⟨c, _, inside⟩ := List.mem_flatMap.1 member
  exact visible_quotedChar c d inside

end DashboardExport.Json
