import DashboardExport.Json.Reader
import Mathlib.Data.List.Induction
import Mathlib.Data.List.TakeDrop
import Mathlib.Data.List.TakeWhile
import Mathlib.Tactic.Ring

/-!
# Runs of digits

A run of decimal digits, the number it stands for, and what reading it off the front of
a text gives.  The decimal form of a number has no zero at its front, except that of
zero, so it is read back as one run (`readWhole_digits`).
-/

set_option autoImplicit false

namespace DashboardExport.Json

/-- All characters are decimal digits. -/
def Digits (chars : List Char) : Prop := ∀ c ∈ chars, c.isDigit = true

theorem digits_toDigits (n : Nat) : Digits (Nat.toDigits 10 n) :=
  fun _ member => Nat.isDigit_of_mem_toDigits (by decide) (by decide) member

theorem digits_append {left right : List Char} (first : Digits left) (second : Digits right) :
    Digits (left ++ right) :=
  fun c member => (List.mem_append.1 member).elim (first c) (second c)

theorem digits_zeros (count : Nat) : Digits (List.replicate count '0') :=
  fun _ member => (List.mem_replicate.1 member).2 ▸ rfl

/-! ## Numbers -/

/-- A run of digits stands for a number with as many digits. -/
theorem ofDigitChars_lt {chars : List Char} (digits : Digits chars) :
    Nat.ofDigitChars 10 chars 0 < 10 ^ chars.length := by
  induction chars using List.reverseRecOn with
  | nil => decide
  | append_singleton chars c ih =>
      have small := ih fun d member => digits d (List.mem_append_left _ member)
      have digit := Char.isDigit_iff_toNat.1 (digits c (by simp))
      have nine : ('9').toNat = '0'.toNat + 9 := rfl
      rw [Nat.ofDigitChars_append, Nat.ofDigitChars_cons, Nat.ofDigitChars_nil,
        List.length_append, List.length_singleton, Nat.pow_succ]
      omega

/-- Zeros at the front do not count. -/
theorem ofDigitChars_zeros_append (count : Nat) (chars : List Char) :
    Nat.ofDigitChars 10 (List.replicate count '0' ++ chars) 0 = Nat.ofDigitChars 10 chars 0 := by
  rw [Nat.ofDigitChars_append, Nat.ofDigitChars_replicate_zero, Nat.mul_zero]

/-- Zeros at the end are powers of ten. -/
theorem ofDigitChars_append_zeros (chars : List Char) (count : Nat) :
    Nat.ofDigitChars 10 (chars ++ List.replicate count '0') 0 =
      Nat.ofDigitChars 10 chars 0 * 10 ^ count := by
  rw [Nat.ofDigitChars_append, Nat.ofDigitChars_replicate_zero, Nat.mul_comm]

/-- A positive number is not less than the power of ten that its digits tell. -/
theorem le_of_length_toDigits {n : Nat} (positive : 0 < n) :
    10 ^ ((Nat.toDigits 10 n).length - 1) ≤ n := by
  have some : 0 < (Nat.toDigits 10 n).length := Nat.length_toDigits_pos
  rcases Nat.eq_zero_or_pos ((Nat.toDigits 10 n).length - 1) with none | more
  · rw [none]
    exact positive
  · refine Nat.le_of_not_lt ?_
    intro small
    have short := (Nat.length_toDigits_le_iff (by decide) more).2 small
    omega

theorem lt_of_length_toDigits (n : Nat) : n < 10 ^ (Nat.toDigits 10 n).length :=
  (Nat.length_toDigits_le_iff (by decide) Nat.length_toDigits_pos).1 (Nat.le_refl _)

/-- The text of an integer is a sign and its digits. -/
theorem toList_toString_int (n : Int) :
    (toString n).toList = if n < 0 then '-' :: Nat.toDigits 10 n.natAbs
      else Nat.toDigits 10 n.natAbs := by
  cases n with
  | ofNat n =>
      have notNegative : ¬ Int.ofNat n < 0 := Int.not_lt.2 (Int.natCast_nonneg n)
      rw [if_neg notNegative]
      exact Nat.toList_repr
  | negSucc n =>
      rw [if_pos (Int.negSucc_lt_zero n)]
      show ("-" ++ (n + 1).repr).toList = _
      rw [String.toList_append, Nat.toList_repr]
      rfl

/-- The decimal form of a positive number does not begin with a zero. -/
theorem head?_toDigits {n : Nat} (positive : 0 < n) : (Nat.toDigits 10 n).head? ≠ some '0' := by
  induction n using Nat.strongRecOn with
  | ind n ih =>
      rw [Nat.toDigits_eq_if (by decide)]
      split
      · next small =>
          rw [List.head?_cons]
          intro zero
          have value := Nat.toNat_digitChar_sub_48_of_lt_ten small
          rw [Option.some.inj zero] at value
          exact absurd value (Nat.ne_of_lt positive)
      · next large =>
          have first := ih (n / 10) (by omega) (by omega)
          cases digits : Nat.toDigits 10 (n / 10) with
          | nil => exact absurd digits Nat.toDigits_ne_nil
          | cons c rest =>
              rw [digits] at first
              exact first

/-! ## Reading -/

/-- What follows does not begin with a digit. -/
def NoDigit (rest : List Char) : Prop := ∀ c, rest.head? = some c → c.isDigit = false

theorem noDigit_cons {c : Char} (other : c.isDigit = false) (rest : List Char) :
    NoDigit (c :: rest) := by
  intro d head
  rw [List.head?_cons] at head
  rw [← Option.some.inj head, other]

theorem spanDigits_append {chars rest : List Char} (digits : Digits chars) (ended : NoDigit rest) :
    spanDigits (chars ++ rest) = (chars, rest) := by
  rw [spanDigits, List.span_eq_takeWhile_dropWhile]
  have stop : rest.takeWhile Char.isDigit = [] ∧ rest.dropWhile Char.isDigit = rest := by
    cases rest with
    | nil => exact ⟨rfl, rfl⟩
    | cons c rest =>
        have other : ¬ c.isDigit = true := by
          rw [ended c rfl]
          exact Bool.false_ne_true
        exact ⟨List.takeWhile_cons_of_neg other, List.dropWhile_cons_of_neg other⟩
  rw [List.takeWhile_append_of_pos digits, List.dropWhile_append_of_pos digits, stop.1, stop.2,
    List.append_nil]

/-- A run of digits without a zero at its front is read as a whole. -/
theorem readWhole_digits {chars rest : List Char} (digits : Digits chars) (nonempty : chars ≠ [])
    (noZero : chars.head? ≠ some '0') (ended : NoDigit rest) :
    readWhole (chars ++ rest) = some (chars, rest) := by
  obtain ⟨c, chars, rfl⟩ := List.exists_cons_of_ne_nil nonempty
  have other : c ≠ '0' := fun same => noZero (by rw [same]; rfl)
  rw [readWhole.eq_def]
  split
  · next same => exact absurd (List.cons.inj same).1 other
  · rw [spanDigits_append digits ended]

/-- The decimal form of a number is read back. -/
theorem readWhole_toDigits (n : Nat) {rest : List Char} (ended : NoDigit rest) :
    readWhole (Nat.toDigits 10 n ++ rest) = some (Nat.toDigits 10 n, rest) := by
  rcases Nat.eq_zero_or_pos n with rfl | positive
  · rfl
  · exact readWhole_digits (digits_toDigits n) Nat.toDigits_ne_nil (head?_toDigits positive) ended

/-- What is read as digits are digits. -/
theorem digits_of_spanDigits {chars digits rest : List Char}
    (read : spanDigits chars = (digits, rest)) : Digits digits := by
  rw [spanDigits, List.span_eq_takeWhile_dropWhile] at read
  cases read
  exact fun c member => List.mem_takeWhile_imp member

/-- What is read as a whole is a run of digits. -/
theorem digits_of_readWhole {chars whole rest : List Char}
    (read : readWhole chars = some (whole, rest)) : Digits whole ∧ whole ≠ [] := by
  rw [readWhole.eq_def] at read
  split at read
  · cases read
    exact ⟨digits_zeros 1, List.cons_ne_nil _ _⟩
  · split at read
    · cases read
    · next digits rest' nonempty spanned =>
        cases read
        exact ⟨digits_of_spanDigits spanned, nonempty⟩

end DashboardExport.Json
