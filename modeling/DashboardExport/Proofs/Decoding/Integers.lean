import DashboardExport.Proofs.Decoding.Values
import DashboardExport.Proofs.Json.Readable

/-!
# The size of decoded integers

An integer field takes an integer, a truth value, a whole floating-point number or a
text.  Whatever it is decoded from, an integer that comes from readable JSON has no more
digits than the reader takes (`length_digits_of_integer`), so it can be written and read
again.
-/

set_option autoImplicit false

namespace DashboardExport.Decoding

open Json (Digits digitLimit)

/-- The decimal digits of an integer, without its sign. -/
def digitsOf (n : Int) : List Char := Nat.toDigits 10 n.natAbs

theorem length_digitsOf_le_iff {n : Int} {count : Nat} (positive : 0 < count) :
    (digitsOf n).length ≤ count ↔ n.natAbs < 10 ^ count :=
  Nat.length_toDigits_le_iff (by decide) positive

/-- The digits of a run are digits. -/
theorem digits_of_digitGroups? {chars digits : List Char}
    (grouped : digitGroups? chars = some digits) : Digits digits := by
  rw [digitGroups?] at grouped
  split_ifs at grouped with each
  cases grouped
  intro c member
  obtain ⟨group, inside, here⟩ := List.mem_flatten.1 member
  have groupDigits := List.all_eq_true.1 each group inside
  rw [Bool.and_eq_true] at groupDigits
  exact List.all_eq_true.1 groupDigits.2 c here

/-- An integer that is written as a text has no more digits than the text. -/
theorem length_digits_of_readIntegerText {text : String} {n : Int}
    (read : readIntegerText text = .ok n) : (digitsOf n).length ≤ digitLimit := by
  have positive : 0 < digitLimit := by decide
  rw [readIntegerText] at read
  dsimp only at read
  split at read
  · next digits grouped _ =>
      have bounded (short : ¬ integerDigitLimit < digits.length) :
          Nat.ofDigitChars 10 digits 0 < 10 ^ digitLimit := by
        have below := Json.ofDigitChars_lt (digits_of_digitGroups? grouped)
        exact below.trans_le (Nat.pow_le_pow_right (by decide) (Nat.le_of_not_lt short))
      split_ifs at read with long negative
      · cases read
        rw [length_digitsOf_le_iff positive, Int.natAbs_neg, Int.natAbs_natCast]
        exact bounded long
      · cases read
        rw [length_digitsOf_le_iff positive, Int.natAbs_natCast]
        exact bounded long
  · cases read

/-- A floating-point number is taken as an integer of a machine word. -/
theorem length_digits_of_integerOfFloat {x : Binary64} {n : Int}
    (whole : integerOfFloat x = .ok n) : (digitsOf n).length ≤ digitLimit := by
  rw [integerOfFloat] at whole
  split_ifs at whole
  split at whole
  · split_ifs at whole with bounded
    cases whole
    rw [Bool.and_eq_true, decide_eq_true_eq, decide_eq_true_eq, wordBound] at bounded
    have small : n.natAbs < 10 ^ 19 := by omega
    exact ((length_digitsOf_le_iff (by decide)).2 small).trans (by decide)
  · cases whole

theorem ofExcept_eq_value_iff {α : Type} {result : Except Fault α} {given : α} :
    ofExcept result = .value given ↔ result = .ok given := by
  cases result with
  | ok value => simp [ofExcept]
  | error fault => simp [ofExcept, Outcome.fault]

/-- **An integer that is decoded from readable JSON is readable.** -/
theorem length_digits_of_integer {value : Json} (readable : value.Readable) {n : Int}
    (decoded : integer value = .value n) : (digitsOf n).length ≤ digitLimit := by
  have read := ofExcept_eq_value_iff.1 decoded
  cases value with
  | int m =>
      cases read
      exact readable
  | bool b =>
      cases read
      cases b <;> decide
  | float x => exact length_digits_of_integerOfFloat read
  | str text => exact length_digits_of_readIntegerText read
  | _ => cases read

end DashboardExport.Decoding
