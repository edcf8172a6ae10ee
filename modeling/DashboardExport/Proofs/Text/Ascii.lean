import Mathlib.Data.Nat.Notation

/-!
# ASCII characters

What holds of 128 code points, which can be computed, holds of every ASCII character.
-/

set_option autoImplicit false

namespace DashboardExport.Text

/-- **A property of ASCII characters is one of the code points below 128.** -/
theorem forall_ascii (property : Char → Prop) (all : ∀ code < 128, property (Char.ofNat code))
    {c : Char} (ascii : c.toNat < 128) : property c := by
  have here := all c.toNat ascii
  rwa [Char.ofNat_toNat] at here

/-- A character that is bounded by an ASCII character is one. -/
theorem ascii_of_le {c : Char} {last : UInt32} (most : c.val ≤ last) (small : last < 128) :
    c.toNat < 128 :=
  Nat.lt_of_le_of_lt (UInt32.le_iff_toNat_le.1 most) (UInt32.lt_iff_toNat_lt.1 small)

theorem ascii_of_isDigit {c : Char} (digit : c.isDigit = true) : c.toNat < 128 :=
  ascii_of_le (of_decide_eq_true (Bool.and_eq_true_iff.1 digit).2) (by decide)

theorem ascii_of_isLower {c : Char} (lower : c.isLower = true) : c.toNat < 128 :=
  ascii_of_le (of_decide_eq_true (Bool.and_eq_true_iff.1 lower).2) (by decide)

theorem ascii_of_isAlphanum {c : Char} (plain : c.isAlphanum = true) : c.toNat < 128 := by
  rcases Bool.or_eq_true_iff.1 plain with letter | digit
  · rcases Bool.or_eq_true_iff.1 letter with upper | lower
    · exact ascii_of_le (of_decide_eq_true upper).2 (by decide)
    · exact ascii_of_isLower lower
  · exact ascii_of_isDigit digit

/-- Only ASCII letters are changed when a character is lowered. -/
theorem toLower_toLower (c : Char) : c.toLower.toLower = c.toLower := by
  by_cases ascii : c.toNat < 128
  · exact forall_ascii (fun d => d.toLower.toLower = d.toLower) (by decide) ascii
  · have same : c.toLower = c :=
      dif_neg fun upper => ascii (ascii_of_le upper.2 (by decide))
    rw [same, same]

end DashboardExport.Text
