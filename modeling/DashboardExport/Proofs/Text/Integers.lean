import DashboardExport.Proofs.Json.Digits
import DashboardExport.Proofs.Text.Ascii
import DashboardExport.Proofs.Text.Split
import DashboardExport.Text.Integer
import Mathlib.Data.Nat.Digits.Lemmas

/-!
# Integers that are written and read

The reader takes integers of a bounded number of digits (`length_toDigits_of_readInteger`),
and such an integer is read back from the way it is written (`readInteger_toString`).
-/

set_option autoImplicit false

namespace DashboardExport.Text

open Json (Digits digits_toDigits toList_toString_int)

/-! ## The size of an integer -/

theorem ofDigits_eq (base : Nat) (digits : List Nat) :
    ofDigits base digits = Nat.ofDigits base digits.reverse := by
  rw [ofDigits, Nat.ofDigits_eq_foldr, List.foldr_reverse]
  simp only [Nat.add_comm, Nat.cast_id]

/-- The digits of a run are below the base. -/
theorem lt_of_mem_digitRun? {base : Nat} {chars : List Char} {digits : List Nat}
    (run : digitRun? base chars = some digits) : ∀ digit ∈ digits, digit < base := by
  unfold digitRun? at run
  generalize splitAtEvery (· == '_') chars = groups at run
  induction groups generalizing digits with
  | nil =>
      cases run
      simp
  | cons group groups ih =>
      rw [List.foldr_cons] at run
      obtain ⟨later, others, run⟩ := Option.bind_eq_some_iff.1 run
      obtain ⟨values, _, run⟩ := Option.bind_eq_some_iff.1 run
      obtain ⟨fits, run⟩ := Option.ite_none_right_eq_some.1 run
      cases run
      have below := List.all_eq_true.1 (Bool.and_eq_true_iff.1 fits).2
      exact List.forall_mem_append.2
        ⟨fun digit member => of_decide_eq_true (below digit member), ih others⟩

/-- **The reader takes no more digits than it can.** -/
theorem length_toDigits_of_readInteger {text : String} {n : Int}
    (read : readInteger 10 text = .ok n) :
    (Nat.toDigits 10 n.natAbs).length ≤ decimalDigitLimit := by
  unfold readInteger at read
  simp only at read
  split at read
  · cases read
  · next digits run =>
      split at read
      · cases read
      · next short =>
          have signed (negative : Bool) (magnitude : Nat) :
              (if negative then -(magnitude : Int) else magnitude).natAbs = magnitude := by
            cases negative with
            | true => exact Int.natAbs_neg _
            | false => rfl
          have magnitude : n.natAbs = ofDigits 10 digits := by
            rw [← Except.ok.inj read]
            exact signed _ _
          have few : digits.length ≤ decimalDigitLimit := by simpa using short
          have below : ofDigits 10 digits < 10 ^ digits.length := by
            rw [ofDigits_eq, ← List.length_reverse]
            refine Nat.ofDigits_lt_base_pow_length (by decide) fun digit member => ?_
            exact lt_of_mem_digitRun? run digit (List.mem_reverse.1 member)
          rw [Nat.length_toDigits_le_iff (by decide) (by decide), magnitude]
          exact below.trans_le (Nat.pow_le_pow_right (by decide) few)

/-! ## Reading what is written -/

theorem digitValue?_of_isDigit {c : Char} (digit : c.isDigit = true) :
    digitValue? c = some (c.toNat - '0'.toNat) :=
  forall_ascii (fun d => d.isDigit = true → digitValue? d = some (d.toNat - '0'.toNat))
    (by decide) (ascii_of_isDigit digit) digit

theorem digitRun?_digits {chars : List Char} (digits : Digits chars) (nonempty : chars ≠ []) :
    digitRun? 10 chars = some (chars.map fun c => c.toNat - '0'.toNat) := by
  have uncut : Uncut (· == '_') chars := by
    intro c member
    refine beq_eq_false_iff_ne.2 ?_
    rintro rfl
    exact absurd (digits '_' member) (by decide)
  have values : chars.mapM digitValue? = some (chars.map fun c => c.toNat - '0'.toNat) := by
    clear nonempty uncut
    induction chars with
    | nil => rfl
    | cons c rest ih =>
        obtain ⟨here, later⟩ := List.forall_mem_cons.1 digits
        rw [List.mapM_cons, digitValue?_of_isDigit here, ih later]
        rfl
  have fits : (!(chars.map fun c => c.toNat - '0'.toNat).isEmpty &&
      (chars.map fun c => c.toNat - '0'.toNat).all (· < 10)) = true := by
    rw [Bool.and_eq_true_iff, List.all_map, List.all_eq_true]
    constructor
    · simpa using nonempty
    · intro c member
      have bounds := Char.isDigit_iff_toNat.1 (digits c member)
      have zero : '0'.toNat = 48 := rfl
      have nine : '9'.toNat = 57 := rfl
      simp only [Function.comp_apply, decide_eq_true_eq]
      omega
  rw [digitRun?, splitAtEvery_of_uncut uncut, List.foldr_cons, List.foldr_nil]
  simp only [Option.bind_eq_bind, Option.bind_some, values, fits, if_true, List.append_nil]

/-- The digits of a number are read as a run that stands for it. -/
theorem exists_digitRun?_toDigits (n : Nat) :
    ∃ digits, digitRun? 10 (Nat.toDigits 10 n) = some digits ∧
      digits.length = (Nat.toDigits 10 n).length ∧ ofDigits 10 digits = n := by
  refine ⟨_, digitRun?_digits (digits_toDigits n) Nat.toDigits_ne_nil, List.length_map _, ?_⟩
  rw [ofDigits, List.foldl_map]
  exact Nat.ofDigitChars_toDigits (by decide) (by decide)

/-- A text without blanks is not trimmed. -/
theorem trimBoth_of_forall {drop : Char → Bool} {chars : List Char}
    (kept : ∀ c ∈ chars, drop c = false) : trimBoth drop chars = chars := by
  have same {others : List Char} (each : ∀ c ∈ others, drop c = false) :
      others.dropWhile drop = others := by
    cases others with
    | nil => rfl
    | cons c rest => rw [List.dropWhile_cons_of_neg (by simp [each c List.mem_cons_self])]
  rw [trimBoth, dropTrailing, same kept,
    same fun c member => kept c (List.mem_reverse.1 member), List.reverse_reverse]

/-- **An integer is read back from the way it is written.** -/
theorem readInteger_toString {n : Int}
    (short : (Nat.toDigits 10 n.natAbs).length ≤ decimalDigitLimit) :
    readInteger 10 (toString n) = .ok n := by
  obtain ⟨values, run, length, value⟩ := exists_digitRun?_toDigits n.natAbs
  have few : ¬decimalDigitLimit < values.length := by rw [length]; exact Nat.not_lt.2 short
  have digits := digits_toDigits n.natAbs
  have trimmed : trimBoth isBlank (toString n).toList = (toString n).toList := by
    refine trimBoth_of_forall fun c member => ?_
    rw [toList_toString_int] at member
    split_ifs at member
    · rcases List.mem_cons.1 member with rfl | digit
      · decide
      · exact isBlank_of_isDigit (digits c digit)
    · exact isBlank_of_isDigit (digits c member)
  unfold readInteger
  rw [trimmed, toList_toString_int]
  by_cases negative : n < 0
  · rw [if_pos negative]
    simp [run, few, value, abs_of_neg negative]
  · obtain ⟨c, rest, same⟩ := List.exists_cons_of_ne_nil
      (Nat.toDigits_ne_nil (b := 10) (n := n.natAbs))
    have sign : c ≠ '-' ∧ c ≠ '+' := by
      have digit := digits c (by rw [same]; exact List.mem_cons_self)
      constructor <;> rintro rfl <;> exact absurd digit (by decide)
    rw [same] at run
    -- The first character is none of the signs, so the whole is read as digits.
    rw [if_neg negative, same]
    simp [sign.1, sign.2, run, few, value, Int.not_lt.1 negative]

end DashboardExport.Text
