import DashboardExport.Json.Printer
import DashboardExport.Proofs.Binary64.Shortest

/-!
# Numbers are read back

The text of an integer within the limit of digits is read back as the integer
(`readPlain_int`), and the text of a floating-point number as the number
(`readPlain_render`).  A number ends where a character follows that cannot continue it
(`Ended`).

The layouts of a decimal differ in where the point stands and in whether there is an
exponent; what is read is always a decimal of the same value, and that is near the
number.
-/

set_option autoImplicit false

namespace DashboardExport.Json

/-! ## The parts of a number -/

/-- What follows does not continue a number. -/
def Ended (rest : List Char) : Prop :=
  ∀ c, rest.head? = some c → c.isDigit = false ∧ c ≠ '.' ∧ c ≠ 'e' ∧ c ≠ 'E'

section Parts

variable {chars rest : List Char}

theorem ended_nil : Ended [] := fun _ head => by cases head

theorem ended_cons {c : Char} (noDigit : c.isDigit = false) (noPoint : c ≠ '.')
    (noLetter : c ≠ 'e' ∧ c ≠ 'E') (rest : List Char) : Ended (c :: rest) := by
  intro d head
  cases head
  exact ⟨noDigit, noPoint, noLetter⟩

theorem Ended.noDigit (ended : Ended rest) : NoDigit rest := fun c head => (ended c head).1

theorem readFraction_of_ended (ended : Ended rest) : readFraction rest = ([], rest) := by
  rw [readFraction.eq_def]
  split
  · exact absurd rfl (ended '.' rfl).2.1
  · rfl

theorem readFraction_point (digits : Digits chars) (nonempty : chars ≠ []) (ended : NoDigit rest) :
    readFraction ('.' :: (chars ++ rest)) = (chars, rest) := by
  rw [readFraction, spanDigits_append digits ended]
  obtain ⟨c, chars, rfl⟩ := List.exists_cons_of_ne_nil nonempty
  rfl

theorem readExponent_of_ended (ended : Ended rest) : readExponent rest = none := by
  cases rest with
  | nil => rfl
  | cons c rest =>
      obtain ⟨_, _, lower, upper⟩ := ended c rfl
      have noLetter : (c == 'e' || c == 'E') = false := by
        rw [Bool.or_eq_false_iff]
        exact ⟨beq_false_of_ne lower, beq_false_of_ne upper⟩
      rw [readExponent.eq_def]
      split
      · next same =>
          cases same
          rw [noLetter]
          rfl
      · next same =>
          cases same
          rw [noLetter]
          rfl
      · next same =>
          cases same
          rw [noLetter]
          rfl
      · rfl

theorem readExponentDigits_append (negative : Bool) (digits : Digits chars) (nonempty : chars ≠ [])
    (ended : NoDigit rest) :
    readExponentDigits negative (chars ++ rest) = some (signed negative chars, rest) := by
  rw [readExponentDigits, spanDigits_append digits ended]
  obtain ⟨c, chars, rfl⟩ := List.exists_cons_of_ne_nil nonempty
  rfl

/-- A signed exponent is read back. -/
theorem readExponent_signed (exponent : Int) (digits : Digits chars) (nonempty : chars ≠ [])
    (value : Nat.ofDigitChars 10 chars 0 = exponent.natAbs) (ended : NoDigit rest) :
    readExponent ('e' :: (if exponent < 0 then '-' else '+') :: (chars ++ rest)) =
      some (exponent, rest) := by
  split_ifs with negative
  · refine (readExponentDigits_append true digits nonempty ended).trans ?_
    rw [signed, value]
    simp only [if_true, Option.some.injEq, Prod.mk.injEq, and_true]
    omega
  · refine (readExponentDigits_append false digits nonempty ended).trans ?_
    rw [signed, value]
    simp only [Bool.false_eq_true, if_false, Option.some.injEq, Prod.mk.injEq, and_true]
    omega

end Parts

/-! ## Integers -/

theorem readNumber_integer (negative : Bool) {n : Nat} {rest : List Char}
    (short : (Nat.toDigits 10 n).length ≤ digitLimit) (ended : Ended rest) :
    readNumber negative (Nat.toDigits 10 n ++ rest) =
      some (.int (signed negative (Nat.toDigits 10 n)), rest) := by
  rw [readNumber, readWhole_toDigits n ended.noDigit]
  simp only [readFraction_of_ended ended, readExponent_of_ended ended]
  rw [if_pos List.isEmpty_nil, if_neg (Nat.not_lt.2 short)]

/-! ## Floating-point numbers -/

section Layouts

variable {whole fraction tail after rest : List Char}

/-- A number with a fraction. -/
theorem readNumber_fraction (negative : Bool)
    (wholeRead : readWhole (whole ++ '.' :: (fraction ++ rest)) =
      some (whole, '.' :: (fraction ++ rest)))
    (digits : Digits fraction) (nonempty : fraction ≠ []) (ended : Ended rest) :
    readNumber negative (whole ++ '.' :: (fraction ++ rest)) =
      some (.float (Binary64.ofDecimal negative (Nat.ofDigitChars 10 (whole ++ fraction) 0)
        (-(fraction.length : Int))), rest) := by
  rw [readNumber, wholeRead]
  simp only [readFraction_point digits nonempty ended.noDigit, readExponent_of_ended ended]
  rw [if_neg (by simp [nonempty])]

/-- A number with an exponent. -/
theorem readNumber_exponent (negative : Bool) {exponent : Int}
    (wholeRead : readWhole (whole ++ tail) = some (whole, tail))
    (fractionRead : readFraction tail = (fraction, after))
    (exponentRead : readExponent after = some (exponent, rest)) :
    readNumber negative (whole ++ tail) =
      some (.float (Binary64.ofDecimal negative (Nat.ofDigitChars 10 (whole ++ fraction) 0)
        (exponent - (fraction.length : Int))), rest) := by
  rw [readNumber, wholeRead]
  simp only [fractionRead, exponentRead]

end Layouts

end DashboardExport.Json

namespace DashboardExport.Binary64.Decimal.Shows

open Json

variable {decimal : Decimal} {significand : Nat} {exponent : Int} {rest : List Char}

/-- Whatever digits and exponent stand for the decimal, they are rounded to the number. -/
theorem ofDecimal_eq (shows : decimal.Shows significand exponent) (negative : Bool)
    (someBits : 0 < significand) (normal : Normal significand exponent) {digits : Nat}
    {power : Int}
    (same : (digits : ℚ) * (10 : ℚ) ^ power = Nat.ofDigitChars 10 decimal.digits 0 *
      (10 : ℚ) ^ (decimal.point - decimal.digits.length)) :
    ofDecimal negative digits power = .finite negative significand exponent normal := by
  have near := shows.near
  rw [← same] at near
  exact ofDecimal_of_near negative (near.positive someBits) someBits normal near

/-- The positional layout is read back. -/
theorem readNumber_positional (shows : decimal.Shows significand exponent) (negative : Bool)
    (someBits : 0 < significand) (normal : Normal significand exponent) (ended : Ended rest) :
    readNumber negative (positional decimal ++ rest) =
      some (.float (.finite negative significand exponent normal), rest) := by
  have digits := shows.digits
  have length := List.length_pos_of_ne_nil shows.nonempty
  rw [positional]
  split_ifs with below beyond
  · -- The point stands before the digits.
    have wholeRead : readWhole (['0'] ++ '.' :: (List.replicate (-decimal.point).toNat '0' ++
        decimal.digits ++ rest)) = some (['0'], '.' :: (List.replicate (-decimal.point).toNat '0' ++
        decimal.digits ++ rest)) := rfl
    refine (readNumber_fraction negative wholeRead (digits_append (digits_zeros _) digits)
      (by simp [shows.nonempty]) ended).trans ?_
    rw [shows.ofDecimal_eq negative someBits normal]
    have zeros : ['0'] ++ (List.replicate (-decimal.point).toNat '0' ++ decimal.digits) =
        List.replicate ((-decimal.point).toNat + 1) '0' ++ decimal.digits := rfl
    rw [zeros, ofDigitChars_zeros_append, List.length_append, List.length_replicate]
    congr 2
    omega
  · -- The point stands behind the digits, and zeros may come between.
    have leading : (decimal.digits ++ List.replicate (decimal.point.toNat - decimal.digits.length)
        '0').head? ≠ some '0' := by
      rw [List.head?_append_of_ne_nil _ shows.nonempty]
      exact shows.noZero
    have wholeRead := readWhole_digits (digits_append digits (digits_zeros _))
      (List.append_ne_nil_of_left_ne_nil shows.nonempty _) leading
      (noDigit_cons (c := '.') rfl (['0'] ++ rest))
    rw [List.append_assoc _ ['.', '0']]
    refine (readNumber_fraction negative wholeRead (digits_zeros 1) (List.cons_ne_nil _ _)
      ended).trans ?_
    rw [shows.ofDecimal_eq negative someBits normal]
    have value : Nat.ofDigitChars 10 (decimal.digits ++
        List.replicate (decimal.point.toNat - decimal.digits.length) '0' ++ ['0']) 0 =
        Nat.ofDigitChars 10 decimal.digits 0 *
          10 ^ (decimal.point.toNat - decimal.digits.length) * 10 ^ 1 :=
      (ofDigitChars_append_zeros _ 1).trans (by rw [ofDigitChars_append_zeros])
    have place : decimal.point - decimal.digits.length =
        ((decimal.point.toNat - decimal.digits.length : ℕ) : ℤ) := by omega
    rw [value, place, zpow_natCast, List.length_singleton, Nat.cast_one, zpow_neg_one]
    push_cast
    ring
  · -- The point stands between the digits.
    have leading : (decimal.digits.take decimal.point.toNat).head? ≠ some '0' := by
      rw [List.head?_take, if_neg (by omega)]
      exact shows.noZero
    have wholeDigits : Digits (decimal.digits.take decimal.point.toNat) :=
      fun c member => digits c (List.mem_of_mem_take member)
    have fractionDigits : Digits (decimal.digits.drop decimal.point.toNat) :=
      fun c member => digits c (List.mem_of_mem_drop member)
    have wholeRead := readWhole_digits wholeDigits
      (fun none => (List.take_eq_nil_iff.1 none).elim (by omega) shows.nonempty) leading
      (noDigit_cons (c := '.') rfl (decimal.digits.drop decimal.point.toNat ++ rest))
    rw [List.append_assoc, List.cons_append]
    refine (readNumber_fraction negative wholeRead fractionDigits
      (by rw [Ne, List.drop_eq_nil_iff]; omega) ended).trans ?_
    rw [shows.ofDecimal_eq negative someBits normal]
    rw [List.take_append_drop, List.length_drop]
    congr 2
    omega

/-- The scientific layout is read back. -/
theorem readNumber_scientific (shows : decimal.Shows significand exponent) (layout : Layout)
    (negative : Bool) (someBits : 0 < significand) (normal : Normal significand exponent)
    (ended : Ended rest) :
    readNumber negative (scientific layout decimal ++ rest) =
      some (.float (.finite negative significand exponent normal), rest) := by
  obtain ⟨first, fraction, same⟩ := List.exists_cons_of_ne_nil shows.nonempty
  have digits := shows.digits
  have noZero := shows.noZero
  rw [same] at digits noZero
  have exponentDigits : Digits (padded layout.exponentDigits
      (Nat.toDigits 10 (decimal.point - 1).natAbs)) :=
    digits_append (digits_zeros _) (digits_toDigits _)
  have exponentRead := readExponent_signed (decimal.point - 1) exponentDigits
    (List.append_ne_nil_of_right_ne_nil _ Nat.toDigits_ne_nil)
    ((ofDigitChars_zeros_append _ _).trans Nat.ofDigitChars_ten_toDigits) ended.noDigit
  have firstDigit : Digits [first] := fun c member => digits c
    (List.mem_cons.2 (.inl (List.mem_singleton.1 member)))
  have firstRead (tail : List Char) (ended : NoDigit tail) :
      readWhole ([first] ++ tail) = some ([first], tail) :=
    readWhole_digits firstDigit (List.cons_ne_nil _ _) noZero ended
  rw [scientific, same]
  cases fraction with
  | nil =>
      have fractionRead : readFraction ('e' :: (if decimal.point - 1 < 0 then '-' else '+') ::
          (padded layout.exponentDigits (Nat.toDigits 10 (decimal.point - 1).natAbs) ++ rest)) =
          ([], 'e' :: (if decimal.point - 1 < 0 then '-' else '+') ::
            (padded layout.exponentDigits (Nat.toDigits 10 (decimal.point - 1).natAbs) ++ rest)) :=
        rfl
      refine (readNumber_exponent negative (firstRead _ (noDigit_cons rfl _)) fractionRead
        exponentRead).trans ?_
      rw [shows.ofDecimal_eq negative someBits normal]
      rw [same, List.append_nil, List.length_nil, List.length_singleton]
      congr 2
      omega
  | cons second fraction =>
      have fractionDigits : Digits (second :: fraction) :=
        fun c member => digits c (List.mem_cons_of_mem _ member)
      have fractionRead := readFraction_point fractionDigits (List.cons_ne_nil _ _)
        (noDigit_cons (c := 'e') rfl ((if decimal.point - 1 < 0 then '-' else '+') ::
          (padded layout.exponentDigits (Nat.toDigits 10 (decimal.point - 1).natAbs) ++ rest)))
      have read := readNumber_exponent negative (firstRead _ (noDigit_cons rfl _)) fractionRead
        exponentRead
      rw [shows.ofDecimal_eq negative someBits normal] at read
      · rw [← read]
        simp only [List.drop_succ_cons, List.drop_zero, List.take_succ_cons, List.take_zero,
          List.append_assoc, List.cons_append, List.nil_append]
      · rw [same]
        congr 2
        simp only [List.length_cons]
        omega

theorem exists_digit_positional (shows : decimal.Shows significand exponent) :
    ∃ c chars, positional decimal = c :: chars ∧ c.isDigit = true := by
  obtain ⟨first, others, same⟩ := List.exists_cons_of_ne_nil shows.nonempty
  have digit : first.isDigit = true := shows.digits first (by rw [same]; exact List.mem_cons_self)
  rw [positional]
  split_ifs with below beyond
  · exact ⟨'0', _, rfl, rfl⟩
  · rw [same]
    exact ⟨first, _, rfl, digit⟩
  · rw [same]
    obtain ⟨place, point⟩ : ∃ place, decimal.point.toNat = place + 1 :=
      ⟨decimal.point.toNat - 1, by omega⟩
    rw [point]
    exact ⟨first, _, rfl, digit⟩

theorem exists_digit_scientific (shows : decimal.Shows significand exponent) (layout : Layout) :
    ∃ c chars, scientific layout decimal = c :: chars ∧ c.isDigit = true := by
  obtain ⟨first, others, same⟩ := List.exists_cons_of_ne_nil shows.nonempty
  have digit : first.isDigit = true := shows.digits first (by rw [same]; exact List.mem_cons_self)
  rw [scientific, same]
  exact ⟨first, _, rfl, digit⟩

end DashboardExport.Binary64.Decimal.Shows

namespace DashboardExport.Json

theorem readNumber_zero (negative : Bool) {exponent : Int} (normal : Binary64.Normal 0 exponent)
    {rest : List Char} (ended : Ended rest) :
    readNumber negative (['0', '.', '0'] ++ rest) =
      some (.float (.finite negative 0 exponent normal), rest) := by
  have least : exponent = Binary64.leastExponent := normal.2.2.2.resolve_left (by decide)
  have wholeRead : readWhole (['0'] ++ '.' :: (['0'] ++ rest)) =
      some (['0'], '.' :: (['0'] ++ rest)) := rfl
  subst least
  exact readNumber_fraction negative wholeRead (digits_zeros 1) (List.cons_ne_nil _ _) ended

/-- The text of a finite number: a sign and then digits that are read back. -/
theorem exists_magnitude (layout : Binary64.Layout) (negative : Bool) {significand : Nat}
    {exponent : Int} (normal : Binary64.Normal significand exponent) :
    ∃ c chars, ((Binary64.finite negative significand exponent normal).render layout).toList =
        (if negative then '-' :: c :: chars else c :: chars) ∧ c.isDigit = true ∧
      ∀ rest, Ended rest → readNumber negative (c :: chars ++ rest) =
        some (.float (.finite negative significand exponent normal), rest) := by
  rw [Binary64.render, String.toList_ofList]
  by_cases zero : significand = 0
  · subst zero
    exact ⟨'0', ['.', '0'], rfl, rfl, fun rest ended => readNumber_zero negative normal ended⟩
  · have someBits := Nat.pos_of_ne_zero zero
    have shows := Binary64.shortest_shows someBits normal
    obtain ⟨c, chars, same, digit, read⟩ : ∃ c chars,
        (if layout.leastPositional ≤ (Binary64.shortest significand exponent).point - 1 &&
            (Binary64.shortest significand exponent).point - 1 < layout.belowPositional then
          Binary64.positional (Binary64.shortest significand exponent)
        else Binary64.scientific layout (Binary64.shortest significand exponent)) = c :: chars ∧
        c.isDigit = true ∧ ∀ rest, Ended rest → readNumber negative (c :: chars ++ rest) =
          some (.float (.finite negative significand exponent normal), rest) := by
      split_ifs
      · obtain ⟨c, chars, same, digit⟩ := shows.exists_digit_positional
        refine ⟨c, chars, same, digit, fun rest ended => ?_⟩
        rw [← same]
        exact shows.readNumber_positional negative someBits normal ended
      · obtain ⟨c, chars, same, digit⟩ := shows.exists_digit_scientific layout
        refine ⟨c, chars, same, digit, fun rest ended => ?_⟩
        rw [← same]
        exact shows.readNumber_scientific layout negative someBits normal ended
    refine ⟨c, chars, ?_, digit, read⟩
    rw [if_neg zero, ← same]

/-! ## Words and numbers -/

/-- No word begins with a digit, and none with a minus sign and a digit. -/
theorem no_word_of_digit {c : Char} (digit : c.isDigit = true) (rest : List Char) :
    (words.findSome? fun word => (afterWord? word.1 (c :: rest)).map fun rest => (word.2, rest)) =
        none ∧
      (words.findSome? fun word =>
        (afterWord? word.1 ('-' :: c :: rest)).map fun rest => (word.2, rest)) = none := by
  have differ (letter : Char) (noDigit : letter.isDigit = false) : (letter == c) = false :=
    beq_false_of_ne fun same => by rw [same, digit] at noDigit; cases noDigit
  constructor
  · simp [words, afterWord?, differ]
  · simp [words, afterWord?, differ]

/-- A sign and a digit begin a number. -/
theorem readPlain_digit {c : Char} (digit : c.isDigit = true) (negative : Bool)
    (rest : List Char) :
    readPlain (if negative then '-' :: c :: rest else c :: rest) =
      readNumber negative (c :: rest) := by
  cases negative with
  | true =>
      rw [if_pos rfl, readPlain, (no_word_of_digit digit rest).2]
  | false =>
      rw [if_neg Bool.false_ne_true, readPlain.eq_def, (no_word_of_digit digit rest).1]
      split
      · next found => cases found
      · split
        · next same =>
            cases same
            cases digit
        · rfl

/-- **The text of a floating-point number is read back.** -/
theorem readPlain_render (x : Binary64) {rest : List Char} (ended : Ended rest) :
    readPlain ((x.render numberLayout).toList ++ rest) = some (.float x, rest) := by
  cases x with
  | nan => rfl
  | infinite negative =>
      cases negative with
      | true => rfl
      | false => rfl
  | finite negative significand exponent normal =>
      obtain ⟨c, chars, same, digit, read⟩ := exists_magnitude numberLayout negative normal
      have whole := (readPlain_digit digit negative (chars ++ rest)).trans (read rest ended)
      rw [same, ← whole]
      cases negative with
      | true => rfl
      | false => rfl

/-- Different floating-point numbers have different texts. -/
theorem render_inj {x y : Binary64} : x.render numberLayout = y.render numberLayout ↔ x = y := by
  constructor
  · intro same
    have read := readPlain_render x ended_nil
    rw [same, readPlain_render y ended_nil] at read
    cases read
    rfl
  · intro same
    rw [same]

/-- Different integers have different texts. -/
theorem toString_int_injective : Function.Injective (toString : Int → String) := by
  have magnitude {m n : Nat} (same : Nat.toDigits 10 m = Nat.toDigits 10 n) : m = n := by
    have value := congrArg (fun digits => Nat.ofDigitChars 10 digits 0) same
    simpa only [Nat.ofDigitChars_ten_toDigits] using value
  have unsigned {m : Nat} {chars : List Char} : '-' :: chars ≠ Nat.toDigits 10 m := by
    intro same
    have digits := digits_toDigits m
    rw [← same] at digits
    exact absurd (digits '-' List.mem_cons_self) (by decide)
  intro m n same
  have chars := congrArg String.toList same
  rw [toList_toString_int, toList_toString_int] at chars
  split_ifs at chars with first second second
  · have digits := magnitude (List.cons.inj chars).2
    omega
  · exact absurd chars unsigned
  · exact absurd chars.symm unsigned
  · have digits := magnitude chars
    omega

/-- **The text of an integer within the limit is read back.** -/
theorem readPlain_int {n : Int} (short : (Nat.toDigits 10 n.natAbs).length ≤ digitLimit)
    {rest : List Char} (ended : Ended rest) :
    readPlain ((toString n).toList ++ rest) = some (.int n, rest) := by
  have value : Nat.ofDigitChars 10 (Nat.toDigits 10 n.natAbs) 0 = n.natAbs :=
    Nat.ofDigitChars_ten_toDigits
  have digits := digits_toDigits n.natAbs
  have read (negative : Bool) := readNumber_integer negative short ended
  obtain ⟨c, chars, same⟩ :=
    List.exists_cons_of_ne_nil (Nat.toDigits_ne_nil (n := n.natAbs) (b := 10))
  rw [same] at digits value read
  have begins := readPlain_digit (digits c List.mem_cons_self)
  rw [toList_toString_int, same]
  split_ifs with negative
  · refine ((begins true (chars ++ rest)).trans (read true)).trans ?_
    rw [signed, value, if_pos rfl]
    congr 3
    omega
  · refine ((begins false (chars ++ rest)).trans (read false)).trans ?_
    rw [signed, value, if_neg Bool.false_ne_true]
    congr 3
    omega

end DashboardExport.Json
