import DashboardExport.Binary64.Shortest
import DashboardExport.Proofs.Binary64.Rounding
import DashboardExport.Proofs.Json.Digits
import Mathlib.Data.Nat.Cast.Order.Field

/-!
# The shortest decimal reads back

The shortest decimal of a positive number is a decimal near it (`shortest_shows`), and
every decimal near a number is rounded to it (`ofDecimal_of_near`).

A decimal near the number is found at the latest on the grid with seventeen digits.
There the spacing is less than the distance of the midpoints, because ten to the power
of sixteen exceeds two to the power of fifty-three, so the grid point nearest to the
number lies between them.
-/

set_option autoImplicit false

namespace DashboardExport.Binary64

open Json (Digits)

/-! ## Rounding decimals -/

/-- Eight is less than ten. -/
theorem two_zpow_le_ten_zpow (n : Nat) : (2 : ℚ) ^ (3 * (n : ℤ)) ≤ (10 : ℚ) ^ (n : ℤ) := by
  rw [zpow_mul, zpow_natCast, zpow_natCast]
  exact pow_le_pow_left₀ (by norm_num) (by norm_num) n

theorem decimal_quotient (digits : Nat) (power : Int) :
    ((digits * Nat.pow 10 power.toNat : ℕ) : ℚ) / ((Nat.pow 10 (-power).toNat : ℕ) : ℚ) =
      digits * (10 : ℚ) ^ power := by
  have split := zpow_eq_div 10 (by decide) power
  rw [Nat.cast_ofNat] at split
  rw [split, Nat.cast_mul, mul_div_assoc]

section Decimals

variable {digits significand : Nat} {power exponent : Int}

/-- A decimal near a number is not beyond the range that is settled by its size. -/
theorem size_of_near (positive : 0 < digits) (someBits : 0 < significand)
    (normal : Normal significand exponent)
    (near : Near significand exponent (digits * (10 : ℚ) ^ power / (2 : ℚ) ^ exponent)) :
    ((Nat.toDigits 10 digits).length : Int) + power ≤ 400 ∧
      -400 ≤ ((Nat.toDigits 10 digits).length : Int) + power := by
  obtain ⟨bounded, greatest, least, _⟩ := normal
  have ten : (0 : ℚ) < (10 : ℚ) ^ power := zpow_pos (by norm_num) _
  have two : (0 : ℚ) < (2 : ℚ) ^ exponent := zpow_pos (by norm_num) _
  have length := Nat.length_toDigits_pos (b := 10) (n := digits)
  constructor
  · have value : digits * (10 : ℚ) ^ power < (2 : ℚ) ^ (53 : ℤ) * (2 : ℚ) ^ exponent := by
      have below : (significand : ℚ) + 1 ≤ significandBound := by exact_mod_cast bounded
      rw [← significandBound_cast, ← div_lt_iff₀ two]
      linarith [near.high]
    have inRange : (2 : ℚ) ^ (53 : ℤ) * (2 : ℚ) ^ exponent ≤ (2 : ℚ) ^ (3 * (400 : ℤ)) := by
      have greatestEq : greatestExponent = 971 := rfl
      rw [← zpow_add₀ (by norm_num)]
      exact zpow_le_zpow_right₀ (by norm_num) (by omega)
    have lower : (10 : ℚ) ^ (((Nat.toDigits 10 digits).length : Int) - 1 + power) ≤
        digits * (10 : ℚ) ^ power := by
      have leading : (10 : ℚ) ^ ((Nat.toDigits 10 digits).length - 1) ≤ digits := by
        exact_mod_cast Json.le_of_length_toDigits positive
      have cast : ((Nat.toDigits 10 digits).length : Int) - 1 =
          (((Nat.toDigits 10 digits).length - 1 : ℕ) : ℤ) := by omega
      rw [zpow_add₀ (by norm_num), cast, zpow_natCast]
      exact mul_le_mul_of_nonneg_right leading ten.le
    have less := (zpow_lt_zpow_iff_right₀ (by norm_num : (1 : ℚ) < 10)).1
      (lt_of_le_of_lt lower (lt_of_lt_of_le (lt_of_lt_of_le value inRange)
        (two_zpow_le_ten_zpow 400)))
    omega
  · have value : (2 : ℚ) ^ (-1 : ℤ) * (2 : ℚ) ^ exponent ≤ digits * (10 : ℚ) ^ power := by
      have above : (1 : ℚ) ≤ significand := by exact_mod_cast someBits
      have half : (2 : ℚ) ^ (-1 : ℤ) = 1 / 2 := by norm_num
      rw [half, ← le_div_iff₀ two]
      linarith [near.low, gapBelow_le significand exponent]
    have inRange : (2 : ℚ) ^ (-(3 * (400 : ℤ))) ≤ (2 : ℚ) ^ (-1 : ℤ) * (2 : ℚ) ^ exponent := by
      have leastEq : leastExponent = -1074 := rfl
      rw [← zpow_add₀ (by norm_num)]
      exact zpow_le_zpow_right₀ (by norm_num) (by omega)
    have tiny : (10 : ℚ) ^ (-(400 : ℤ)) ≤ (2 : ℚ) ^ (-(3 * (400 : ℤ))) := by
      rw [zpow_neg, zpow_neg]
      exact inv_anti₀ (zpow_pos (by norm_num) _) (two_zpow_le_ten_zpow 400)
    have upper : digits * (10 : ℚ) ^ power <
        (10 : ℚ) ^ (((Nat.toDigits 10 digits).length : Int) + power) := by
      have all : (digits : ℚ) < (10 : ℚ) ^ (Nat.toDigits 10 digits).length := by
        exact_mod_cast Json.lt_of_length_toDigits digits
      rw [zpow_add₀ (by norm_num), zpow_natCast]
      exact mul_lt_mul_of_pos_right all ten
    have less := (zpow_lt_zpow_iff_right₀ (by norm_num : (1 : ℚ) < 10)).1
      (lt_of_le_of_lt (le_trans tiny (le_trans inRange value)) upper)
    omega

/-- **A decimal near a number is rounded to it.** -/
theorem ofDecimal_of_near (negative : Bool) (positive : 0 < digits) (someBits : 0 < significand)
    (normal : Normal significand exponent)
    (near : Near significand exponent (digits * (10 : ℚ) ^ power / (2 : ℚ) ^ exponent)) :
    ofDecimal negative digits power = .finite negative significand exponent normal := by
  obtain ⟨notHuge, notTiny⟩ := size_of_near positive someBits normal near
  rw [ofDecimal, if_neg (Nat.ne_of_gt positive), if_neg (by omega), if_neg (by omega)]
  have numPositive : 0 < digits * Nat.pow 10 power.toNat :=
    Nat.mul_pos positive (Nat.pow_pos (by decide))
  refine ofRatio_of_near negative numPositive _ normal ?_
  rwa [decimal_quotient]

end Decimals

/-! ## Grid points -/

theorem mul_le_mul_iff_div_le_div {a b c d : Nat} (bPositive : 0 < b) (dPositive : 0 < d) :
    a * d ≤ c * b ↔ (a : ℚ) / b ≤ (c : ℚ) / d := by
  rw [div_le_div_iff₀ (Nat.cast_pos.2 bPositive) (Nat.cast_pos.2 dPositive)]
  norm_cast

theorem mul_lt_mul_iff_div_lt_div {a b c d : Nat} (bPositive : 0 < b) (dPositive : 0 < d) :
    a * d < c * b ↔ (a : ℚ) / b < (c : ℚ) / d := by
  rw [div_lt_div_iff₀ (Nat.cast_pos.2 bPositive) (Nat.cast_pos.2 dPositive)]
  norm_cast

section Neighbourhood

variable (significand : Nat) (exponent : Int)

theorem denominator_pos : 0 < (neighbourhood significand exponent).denominator :=
  Nat.pow_pos (by decide)

/-- A quarter of a step over the common denominator. -/
theorem quarter_eq :
    ((Nat.pow 2 (exponent - 2).toNat : ℕ) : ℚ) / (neighbourhood significand exponent).denominator =
      (2 : ℚ) ^ exponent / 4 := by
  have split := zpow_eq_div 2 (by decide) (exponent - 2)
  rw [Nat.cast_ofNat, neg_sub, zpow_sub₀ (by norm_num)] at split
  rw [show (2 : ℚ) ^ exponent / 4 = (2 : ℚ) ^ exponent / 2 ^ (2 : ℤ) by norm_num, split]
  rfl

theorem value_eq :
    ((neighbourhood significand exponent).value : ℚ) /
      (neighbourhood significand exponent).denominator = significand * (2 : ℚ) ^ exponent := by
  have quarters : (neighbourhood significand exponent).value =
      4 * significand * Nat.pow 2 (exponent - 2).toNat := rfl
  rw [quarters, Nat.cast_mul, mul_div_assoc, quarter_eq]
  push_cast
  ring

theorem above_eq :
    ((neighbourhood significand exponent).above : ℚ) /
      (neighbourhood significand exponent).denominator =
      (significand + 1 / 2) * (2 : ℚ) ^ exponent := by
  have quarters : (neighbourhood significand exponent).above =
      (4 * significand + 2) * Nat.pow 2 (exponent - 2).toNat := rfl
  rw [quarters, Nat.cast_mul, mul_div_assoc, quarter_eq]
  push_cast
  ring

theorem below_eq (someBits : 0 < significand) :
    ((neighbourhood significand exponent).below : ℚ) /
      (neighbourhood significand exponent).denominator =
      (significand - gapBelow significand exponent) * (2 : ℚ) ^ exponent := by
  have quarters : (neighbourhood significand exponent).below =
      (4 * significand - if significand = leastFull ∧ leastExponent < exponent then 1 else 2) *
        Nat.pow 2 (exponent - 2).toNat := rfl
  rw [quarters, Nat.cast_mul, mul_div_assoc, quarter_eq, gapBelow]
  split_ifs
  · rw [Nat.cast_sub (by omega)]
    push_cast
    ring
  · rw [Nat.cast_sub (by omega)]
    push_cast
    ring

/-- **A grid point is taken exactly when it is near the number.** -/
theorem holds_iff (someBits : 0 < significand) (place : Int) (candidate : Nat) :
    (neighbourhood significand exponent).holds (Nat.pow 10 (-place).toNat)
        (Nat.pow 10 place.toNat) candidate = true ↔
      Near significand exponent (candidate * (10 : ℚ) ^ place / (2 : ℚ) ^ exponent) := by
  have two : (0 : ℚ) < (2 : ℚ) ^ exponent := zpow_pos (by norm_num) _
  have up : 0 < Nat.pow 10 (-place).toNat := Nat.pow_pos (by decide)
  have denominator := denominator_pos significand exponent
  have here : ((candidate * Nat.pow 10 place.toNat : ℕ) : ℚ) /
      ((Nat.pow 10 (-place).toNat : ℕ) : ℚ) = candidate * (10 : ℚ) ^ place :=
    decimal_quotient candidate place
  have order : candidate * (neighbourhood significand exponent).denominator *
      Nat.pow 10 place.toNat =
      candidate * Nat.pow 10 place.toNat * (neighbourhood significand exponent).denominator :=
    Nat.mul_right_comm _ _ _
  have closed : (neighbourhood significand exponent).closed = (significand % 2 == 0) := rfl
  rw [Neighbourhood.holds, Near, order, closed]
  by_cases even : significand % 2 = 0
  · rw [if_pos even, if_pos (beq_iff_eq.2 even), Bool.and_eq_true, decide_eq_true_iff,
      decide_eq_true_iff, mul_le_mul_iff_div_le_div denominator up,
      mul_le_mul_iff_div_le_div up denominator, here, below_eq _ _ someBits, above_eq,
      le_div_iff₀ two, div_le_iff₀ two]
  · rw [if_neg even, if_neg (mt beq_iff_eq.1 even), Bool.and_eq_true, decide_eq_true_iff,
      decide_eq_true_iff, mul_lt_mul_iff_div_lt_div denominator up,
      mul_lt_mul_iff_div_lt_div up denominator, here, below_eq _ _ someBits, above_eq,
      lt_div_iff₀ two, div_lt_iff₀ two]

/-- A grid point that is found is near the number. -/
theorem near_of_onGrid? (someBits : 0 < significand) {point : Int} {count hit : Nat}
    (found : (neighbourhood significand exponent).onGrid? point count = some hit) :
    Near significand exponent (hit * (10 : ℚ) ^ (point - count) / (2 : ℚ) ^ exponent) := by
  rw [← holds_iff significand exponent someBits, neg_sub]
  rw [Neighbourhood.onGrid?] at found
  split at found
  · next holdsLow _ => cases found; exact holdsLow
  · next _ holdsHigh => cases found; exact holdsHigh
  · next holdsLow holdsHigh =>
      cases found
      rcases roundHalfEven_eq_or ((neighbourhood significand exponent).value *
          Nat.pow 10 ((count : Int) - point).toNat)
        ((neighbourhood significand exponent).denominator *
          Nat.pow 10 (point - (count : Int)).toNat) with low | high
      · rw [low]
        exact holdsLow
      · rw [high]
        exact holdsHigh
  · cases found

/-- The spacing of the grid with seventeen digits, in steps of the number. -/
theorem spacing_le {point : Int}
    (leading : (10 : ℚ) ^ (point - 1) ≤ significand * (2 : ℚ) ^ exponent) :
    (10 : ℚ) ^ (point - 17) / (2 : ℚ) ^ exponent ≤ significand / 10 ^ 16 := by
  have two : (0 : ℚ) < (2 : ℚ) ^ exponent := zpow_pos (by norm_num) _
  have digits : (10 : ℚ) ^ (point - 1) = (10 : ℚ) ^ (point - 17) * 10 ^ 16 := by
    rw [show point - 1 = point - 17 + 16 by ring, zpow_add₀ (by norm_num)]
    norm_num
  rw [digits] at leading
  rw [div_le_div_iff₀ two (by norm_num)]
  exact leading

/-- Half of that spacing is less than the distance to either midpoint. -/
theorem half_spacing_lt (normal : Normal significand exponent) :
    (significand : ℚ) / 10 ^ 16 / 2 < gapBelow significand exponent := by
  have below : (significand : ℚ) + 1 ≤ significandBound := by exact_mod_cast normal.1
  rw [gapBelow]
  split_ifs with atPower
  · rw [atPower.1]
    norm_num [leastFull]
  · have bound : (significandBound : ℚ) < 10 ^ 16 := by norm_num [significandBound]
    linarith

/-- The number lies between the two grid points next to it. -/
theorem between_grid_points (place : Int) :
    ((neighbourhood significand exponent).value * Nat.pow 10 (-place).toNat /
        ((neighbourhood significand exponent).denominator * Nat.pow 10 place.toNat) : ℕ) *
          ((10 : ℚ) ^ place / (2 : ℚ) ^ exponent) ≤ significand ∧
      (significand : ℚ) < (((neighbourhood significand exponent).value *
          Nat.pow 10 (-place).toNat / ((neighbourhood significand exponent).denominator *
            Nat.pow 10 place.toNat) : ℕ) + 1) * ((10 : ℚ) ^ place / (2 : ℚ) ^ exponent) := by
  have two : (0 : ℚ) < (2 : ℚ) ^ exponent := zpow_pos (by norm_num) _
  have ten : (0 : ℚ) < (10 : ℚ) ^ place := zpow_pos (by norm_num) _
  have positive : 0 < (neighbourhood significand exponent).denominator * Nat.pow 10 place.toNat :=
    Nat.mul_pos (denominator_pos significand exponent) (Nat.pow_pos (by decide))
  have split := zpow_eq_div 10 (by decide) place
  rw [Nat.cast_ofNat] at split
  have quotient : (((neighbourhood significand exponent).value * Nat.pow 10 (-place).toNat : ℕ) : ℚ) /
      (((neighbourhood significand exponent).denominator * Nat.pow 10 place.toNat : ℕ) : ℚ) =
      significand * (2 : ℚ) ^ exponent / (10 : ℚ) ^ place := by
    rw [← value_eq, split, Nat.cast_mul, Nat.cast_mul, div_div_div_eq]
  have scaled (steps : ℚ) : steps * ((10 : ℚ) ^ place / (2 : ℚ) ^ exponent) =
      steps * (10 : ℚ) ^ place / (2 : ℚ) ^ exponent := (mul_div_assoc _ _ _).symm
  rw [scaled, scaled, div_le_iff₀ two, lt_div_iff₀ two, ← le_div_iff₀ ten, ← div_lt_iff₀ ten,
    ← quotient]
  refine ⟨Nat.cast_div_le, ?_⟩
  rw [div_lt_iff₀ (Nat.cast_pos.2 positive)]
  exact_mod_cast (Nat.div_lt_iff_lt_mul positive).1 (Nat.lt_succ_self _)

/-- Of two points that are less than the distances of the midpoints apart, one is near. -/
theorem near_or_near {low : Nat} {spacing : ℚ} (lower : low * spacing ≤ significand)
    (upper : (significand : ℚ) < (low + 1) * spacing)
    (close : spacing / 2 < gapBelow significand exponent) :
    Near significand exponent (low * spacing) ∨
      Near significand exponent ((low + 1) * spacing) := by
  have gap := gapBelow_le significand exponent
  by_cases nearer : significand - low * spacing ≤ spacing / 2
  · exact .inl (near_of_inside (by linarith) (by linarith))
  · exact .inr (near_of_inside (by linarith) (by linarith))

/-- **On the grid with seventeen digits there is a point near the number.** -/
theorem exists_onGrid? (someBits : 0 < significand) (normal : Normal significand exponent)
    {point : Int} (leading : (10 : ℚ) ^ (point - 1) ≤ significand * (2 : ℚ) ^ exponent) :
    ∃ hit, (neighbourhood significand exponent).onGrid? point 17 = some hit := by
  have fine := spacing_le significand exponent leading
  have close := half_spacing_lt significand exponent normal
  obtain ⟨lower, upper⟩ := between_grid_points significand exponent (point - (17 : ℕ))
  have taken := near_or_near significand exponent lower upper
    (by rw [Nat.cast_ofNat]; linarith)
  rw [← Nat.cast_add_one, ← mul_div_assoc, ← mul_div_assoc,
    ← holds_iff significand exponent someBits, ← holds_iff significand exponent someBits,
    neg_sub] at taken
  rw [Neighbourhood.onGrid?]
  split
  · exact ⟨_, rfl⟩
  · exact ⟨_, rfl⟩
  · exact ⟨_, rfl⟩
  · next notLow notHigh =>
      rcases taken with low | high
      · rw [notLow] at low
        cases low
      · rw [notHigh] at high
        cases high

end Neighbourhood

/-- The first grid with a hit is found. -/
theorem onGrid?_firstGrid (n : Neighbourhood) (point : Int) : ∀ fuel count : Nat,
    (∃ k, count ≤ k ∧ k < count + fuel ∧ ∃ hit, n.onGrid? point k = some hit) →
      n.onGrid? point (n.firstGrid point fuel count).2 = some (n.firstGrid point fuel count).1
  | 0, count, ⟨k, atLeast, less, _⟩ => by omega
  | fuel + 1, count, ⟨k, atLeast, less, hit, found⟩ => by
      rw [Neighbourhood.firstGrid]
      split
      · next here => exact here
      · next nothing =>
          refine onGrid?_firstGrid n point fuel (count + 1) ⟨k, ?_, by omega, hit, found⟩
          rcases Nat.eq_or_lt_of_le atLeast with rfl | more
          · rw [nothing] at found
            cases found
          · exact more

/-! ## The decimal point -/

theorem le_leadingZeros (num den : Nat) : ∀ fuel places : Nat,
    (∃ k, k < fuel ∧ den ≤ num * Nat.pow 10 (places + k + 1)) →
      den ≤ num * Nat.pow 10 (leadingZeros num den fuel places + 1)
  | 0, _, ⟨_, less, _⟩ => by omega
  | fuel + 1, places, ⟨k, less, enough⟩ => by
      rw [leadingZeros]
      split
      · next here => exact here
      · next notHere =>
          refine le_leadingZeros num den fuel (places + 1) ?_
          cases k with
          | zero => exact absurd enough notHere
          | succ k =>
              refine ⟨k, by omega, ?_⟩
              rwa [show places + 1 + k + 1 = places + (k + 1) + 1 by omega]

/-- A quotient is not less than the power of ten before its decimal point. -/
theorem le_of_decimalPoint {num den : Nat} (positive : 0 < den)
    (enough : ∃ k, k < 400 ∧ den ≤ num * Nat.pow 10 (0 + k + 1)) :
    (10 : ℚ) ^ (decimalPoint num den - 1) ≤ (num : ℚ) / den := by
  have denPositive : (0 : ℚ) < den := Nat.cast_pos.2 positive
  rw [decimalPoint]
  split_ifs with whole
  · have quotientPositive : 0 < num / den := Nat.div_pos whole positive
    have length := Nat.length_toDigits_pos (b := 10) (n := num / den)
    have cast : ((Nat.toDigits 10 (num / den)).length : Int) - 1 =
        (((Nat.toDigits 10 (num / den)).length - 1 : ℕ) : ℤ) := by omega
    have leading : (10 : ℚ) ^ ((Nat.toDigits 10 (num / den)).length - 1) ≤ (num / den : ℕ) := by
      exact_mod_cast Json.le_of_length_toDigits quotientPositive
    rw [cast, zpow_natCast]
    exact le_trans leading Nat.cast_div_le
  · have zeros := le_leadingZeros num den 400 0 enough
    have cast : -(leadingZeros num den 400 0 : Int) - 1 =
        -((leadingZeros num den 400 0 + 1 : ℕ) : ℤ) := by omega
    rw [cast, zpow_neg, zpow_natCast, le_div_iff₀ denPositive, inv_mul_le_iff₀ (by positivity),
      mul_comm]
    exact_mod_cast zeros

/-- Few zeros follow the decimal point of a number. -/
theorem exists_denominator_le {significand : Nat} {exponent : Int} (someBits : 0 < significand)
    (normal : Normal significand exponent) :
    ∃ k, k < 400 ∧ (neighbourhood significand exponent).denominator ≤
      (neighbourhood significand exponent).value * Nat.pow 10 (0 + k + 1) := by
  have least : leastExponent ≤ exponent := normal.2.2.1
  have leastEq : leastExponent = -1074 := rfl
  have value : 1 ≤ (neighbourhood significand exponent).value :=
    Nat.mul_pos (Nat.mul_pos (by decide) someBits) (Nat.pow_pos (by decide))
  obtain ⟨k, places⟩ : ∃ k, k = (2 - exponent).toNat / 3 := ⟨_, rfl⟩
  refine ⟨k, by omega, ?_⟩
  calc (neighbourhood significand exponent).denominator
      = 2 ^ (2 - exponent).toNat := rfl
    _ ≤ 2 ^ (3 * (0 + k + 1)) := Nat.pow_le_pow_right (by decide) (by omega)
    _ = (2 ^ 3) ^ (0 + k + 1) := Nat.pow_mul 2 3 (0 + k + 1)
    _ ≤ 10 ^ (0 + k + 1) := Nat.pow_le_pow_left (by decide) _
    _ ≤ (neighbourhood significand exponent).value * Nat.pow 10 (0 + k + 1) :=
      Nat.le_mul_of_pos_left _ value

/-! ## The shortest decimal -/

/-- A list without its trailing zeros, and the zeros. -/
theorem exists_append_zeros (chars : List Char) :
    ∃ count, chars = (chars.reverse.dropWhile (· == '0')).reverse ++ List.replicate count '0' := by
  obtain ⟨count, zeros⟩ : ∃ count,
      chars.reverse.takeWhile (· == '0') = List.replicate count '0' := by
    refine ⟨_, List.eq_replicate_of_mem fun c member => ?_⟩
    have zero := List.mem_takeWhile_imp member
    exact beq_iff_eq.1 zero
  have split : chars.reverse =
      chars.reverse.takeWhile (· == '0') ++ chars.reverse.dropWhile (· == '0') :=
    List.takeWhile_append_dropWhile.symm
  refine ⟨count, ?_⟩
  rw [zeros] at split
  have back := congrArg List.reverse split
  rwa [List.reverse_reverse, List.reverse_append, List.reverse_replicate] at back

/-- A decimal that reads back as a number: its digits begin with no zero, and it is near. -/
structure Decimal.Shows (decimal : Decimal) (significand : Nat) (exponent : Int) : Prop where
  digits : Digits decimal.digits
  nonempty : decimal.digits ≠ []
  noZero : decimal.digits.head? ≠ some '0'
  near : Near significand exponent (Nat.ofDigitChars 10 decimal.digits 0 *
    (10 : ℚ) ^ (decimal.point - decimal.digits.length) / (2 : ℚ) ^ exponent)

theorem Near.positive {significand candidate : Nat} {exponent place : Int}
    (someBits : 0 < significand)
    (near : Near significand exponent (candidate * (10 : ℚ) ^ place / (2 : ℚ) ^ exponent)) :
    0 < candidate := by
  refine Nat.pos_of_ne_zero ?_
  intro zero
  have above : (1 : ℚ) ≤ significand := by exact_mod_cast someBits
  have low := near.low
  rw [zero, Nat.cast_zero, zero_mul, zero_div] at low
  linarith [gapBelow_le significand exponent]

/-- The digits of a grid point near the number, without the zeros at their end. -/
theorem shows_of_near {significand hit : Nat} {exponent place : Int} (someBits : 0 < significand)
    (near : Near significand exponent (hit * (10 : ℚ) ^ place / (2 : ℚ) ^ exponent)) :
    Decimal.Shows
      { digits := ((Nat.toDigits 10 hit).reverse.dropWhile (· == '0')).reverse
        point := place + ((Nat.toDigits 10 hit).length : Int) } significand exponent := by
  have noZero := Json.head?_toDigits (near.positive someBits)
  have digits := Json.digits_toDigits hit
  have value : Nat.ofDigitChars 10 (Nat.toDigits 10 hit) 0 = hit := Nat.ofDigitChars_ten_toDigits
  obtain ⟨zeros, split⟩ := exists_append_zeros (Nat.toDigits 10 hit)
  generalize ((Nat.toDigits 10 hit).reverse.dropWhile (· == '0')).reverse = leading at split
  rw [split] at noZero digits value ⊢
  have nonempty : leading ≠ [] := by
    rintro rfl
    cases zeros with
    | zero => exact absurd split Nat.toDigits_ne_nil
    | succ _ => exact noZero rfl
  obtain ⟨first, rest, rfl⟩ := List.exists_cons_of_ne_nil nonempty
  refine
    { digits := fun c member => digits c (List.mem_append_left _ member)
      nonempty := nonempty
      noZero := noZero
      near := ?_ }
  rw [Json.ofDigitChars_append_zeros] at value
  have scaled : (Nat.ofDigitChars 10 (first :: rest) 0 : ℚ) * (10 : ℚ) ^ (place +
      ((first :: rest ++ List.replicate zeros '0').length : Int) - (first :: rest).length) =
      hit * (10 : ℚ) ^ place := by
    rw [← value, List.length_append, List.length_replicate]
    push_cast
    rw [show place + (((first :: rest).length : Int) + zeros) - (first :: rest).length =
      zeros + place by ring, zpow_add₀ (by norm_num), zpow_natCast, mul_assoc]
  rw [scaled]
  exact near

/-- **The shortest decimal of a positive number reads back as the number.** -/
theorem shortest_shows {significand : Nat} {exponent : Int} (someBits : 0 < significand)
    (normal : Normal significand exponent) :
    (shortest significand exponent).Shows significand exponent := by
  have two : (0 : ℚ) < (2 : ℚ) ^ exponent := zpow_pos (by norm_num) _
  have leading := le_of_decimalPoint (denominator_pos significand exponent)
    (exists_denominator_le someBits normal)
  rw [value_eq] at leading
  obtain ⟨last, lastFound⟩ := exists_onGrid? significand exponent someBits normal leading
  have found := onGrid?_firstGrid (neighbourhood significand exponent) _ 17 1
    ⟨17, by decide, by decide, last, lastFound⟩
  have near := near_of_onGrid? significand exponent someBits found
  exact shows_of_near someBits near

end DashboardExport.Binary64
