import DashboardExport.Binary64.Basic
import Mathlib.Algebra.Order.Field.Rat
import Mathlib.Algebra.Order.Field.Power
import Mathlib.Data.Rat.Cast.Order
import Mathlib.Tactic.FieldSimp
import Mathlib.Tactic.Linarith
import Mathlib.Tactic.NormNum
import Mathlib.Tactic.Positivity

/-!
# What rounds to a number

A quotient is rounded to a positive finite number when it lies between the midpoints to
the neighbours of the number, the midpoints included when its significand is even
(`ofRatio_of_near`).  Below a power of two the neighbour is only half a step away, and a
quotient there is rounded on the finer grid and then carried.

Quotients and powers are compared as rational numbers.
-/

set_option autoImplicit false

namespace DashboardExport.Binary64

/-! ## Quotients as rational numbers -/

theorem pow_cast_pos {base : Nat} (positive : 0 < base) (n : Nat) :
    (0 : ℚ) < (Nat.pow base n : ℕ) :=
  Nat.cast_pos.2 (Nat.pow_pos positive)

/-- A power of an integer exponent, as a quotient of natural numbers. -/
theorem zpow_eq_div (base : Nat) (positive : 0 < base) (exponent : Int) :
    (base : ℚ) ^ exponent =
      ((Nat.pow base exponent.toNat : ℕ) : ℚ) / ((Nat.pow base (-exponent).toNat : ℕ) : ℚ) := by
  have nonzero : (base : ℚ) ≠ 0 := Nat.cast_ne_zero.2 (Nat.ne_of_gt positive)
  have split : exponent = (exponent.toNat : ℤ) - ((-exponent).toNat : ℤ) := by omega
  conv_lhs => rw [split, zpow_sub₀ nonzero, zpow_natCast, zpow_natCast]
  push_cast [Nat.pow_eq]
  rfl

theorem belowPower_iff_lt {num den : Nat} (positive : 0 < den) (exponent : Int) :
    BelowPower num den exponent ↔ (num : ℚ) / den < (2 : ℚ) ^ exponent := by
  have power := zpow_eq_div 2 (by decide) exponent
  rw [Nat.cast_ofNat] at power
  rw [power, div_lt_div_iff₀ (Nat.cast_pos.2 positive) (pow_cast_pos (by decide) _), BelowPower,
    mul_comm den]
  norm_cast

/-- A positive quotient lies between the powers of two of its logarithm and of the next number. -/
theorem ratioLog2_bounds {num den : Nat} (numPositive : 0 < num) (positive : 0 < den) :
    (2 : ℚ) ^ ratioLog2 num den ≤ (num : ℚ) / den ∧
      (num : ℚ) / den < (2 : ℚ) ^ (ratioLog2 num den + 1) := by
  constructor
  · exact not_lt.1 fun below =>
      not_belowPower_ratioLog2 numPositive ((belowPower_iff_lt positive _).2 below)
  · exact (belowPower_iff_lt positive _).1 (belowPower_ratioLog2 positive)

/-- The quotient that is rounded, on the grid of an exponent. -/
theorem scaled_quotient (num den : Nat) (exponent : Int) :
    ((num * Nat.pow 2 (-exponent).toNat : ℕ) : ℚ) / ((den * Nat.pow 2 exponent.toNat : ℕ) : ℚ) =
      (num : ℚ) / den / (2 : ℚ) ^ exponent := by
  have power := zpow_eq_div 2 (by decide) exponent
  rw [Nat.cast_ofNat] at power
  rw [power, Nat.cast_mul, Nat.cast_mul, div_div_div_eq]

/-! ## Rounding to an integer -/

/-- A quotient is rounded down or up. -/
theorem roundHalfEven_eq_or (num den : Nat) :
    roundHalfEven num den = num / den ∨ roundHalfEven num den = num / den + 1 := by
  rw [roundHalfEven]
  split_ifs
  · exact .inl rfl
  · exact .inr rfl
  · rcases Nat.mod_two_eq_zero_or_one (num / den) with even | odd
    · rw [even]
      exact .inl rfl
    · rw [odd]
      exact .inr rfl

/-- An integer that is at most one half away from a quotient, and less than that if it is odd, is
what the quotient is rounded to. -/
theorem roundHalfEven_eq {num den n : Nat} (low : 2 * (n * den) ≤ 2 * num + den)
    (high : 2 * num ≤ 2 * (n * den) + den)
    (inside : n % 2 = 1 → 2 * (n * den) < 2 * num + den ∧ 2 * num < 2 * (n * den) + den)
    (positive : 0 < den) : roundHalfEven num den = n := by
  have split := Nat.div_add_mod' num den
  have small := Nat.mod_lt num positive
  have notAbove : num / den ≤ n := by
    refine Nat.le_of_not_lt ?_
    intro less
    have far := Nat.mul_le_mul_right den less
    rw [Nat.succ_mul] at far
    omega
  have notBelow : n ≤ num / den + 1 := by
    refine Nat.le_of_not_lt ?_
    intro less
    have far := Nat.mul_le_mul_right den less
    rw [Nat.succ_mul, Nat.succ_mul] at far
    omega
  rw [roundHalfEven]
  rcases Nat.eq_or_lt_of_le notAbove with same | next
  · rw [← same] at low high inside ⊢
    split_ifs <;> omega
  · have same : n = num / den + 1 := by omega
    rw [same] at low high inside ⊢
    rw [Nat.succ_mul (num / den) den] at low high inside
    split_ifs <;> omega

/-- The same for quotients as rational numbers. -/
theorem roundHalfEven_eq_of_between {num den n : Nat} (positive : 0 < den)
    (low : (n : ℚ) - 1 / 2 ≤ (num : ℚ) / den) (high : (num : ℚ) / den ≤ (n : ℚ) + 1 / 2)
    (inside : n % 2 = 1 → (n : ℚ) - 1 / 2 < (num : ℚ) / den ∧ (num : ℚ) / den < (n : ℚ) + 1 / 2) :
    roundHalfEven num den = n := by
  have denPositive : (0 : ℚ) < den := Nat.cast_pos.2 positive
  rw [le_div_iff₀ denPositive] at low
  rw [div_le_iff₀ denPositive] at high
  refine roundHalfEven_eq ?_ ?_ (fun odd => ⟨?_, ?_⟩) positive
  · have cast : (2 * (n * den) : ℚ) ≤ 2 * num + den := by linarith
    exact_mod_cast cast
  · have cast : (2 * num : ℚ) ≤ 2 * (n * den) + den := by linarith
    exact_mod_cast cast
  · have strict := (lt_div_iff₀ denPositive).1 (inside odd).1
    have cast : (2 * (n * den) : ℚ) < 2 * num + den := by linarith
    exact_mod_cast cast
  · have strict := (div_lt_iff₀ denPositive).1 (inside odd).2
    have cast : (2 * num : ℚ) < 2 * (n * den) + den := by linarith
    exact_mod_cast cast

/-! ## The neighbourhood of a number -/

/-- How far below a number the midpoint to its lower neighbour is, in steps of its own grid. -/
def gapBelow (significand : Nat) (exponent : Int) : ℚ :=
  if significand = leastFull ∧ leastExponent < exponent then 1 / 4 else 1 / 2

/-- A quotient, in steps of the grid of a number, lies between the midpoints to its neighbours. -/
def Near (significand : Nat) (exponent : Int) (steps : ℚ) : Prop :=
  if significand % 2 = 0 then
    significand - gapBelow significand exponent ≤ steps ∧ steps ≤ significand + 1 / 2
  else significand - gapBelow significand exponent < steps ∧ steps < significand + 1 / 2

theorem gapBelow_le (significand : Nat) (exponent : Int) :
    gapBelow significand exponent ≤ 1 / 2 := by
  rw [gapBelow]
  split_ifs <;> norm_num

section Near

variable {significand : Nat} {exponent : Int} {steps : ℚ}

theorem Near.low (near : Near significand exponent steps) :
    significand - gapBelow significand exponent ≤ steps := by
  rw [Near] at near
  split_ifs at near
  · exact near.1
  · exact near.1.le

theorem Near.high (near : Near significand exponent steps) : steps ≤ significand + 1 / 2 := by
  rw [Near] at near
  split_ifs at near
  · exact near.2
  · exact near.2.le

/-- What lies inside the midpoints is near, whether or not they count. -/
theorem near_of_inside (low : significand - gapBelow significand exponent < steps)
    (high : steps < significand + 1 / 2) : Near significand exponent steps := by
  rw [Near]
  split_ifs
  · exact ⟨low.le, high.le⟩
  · exact ⟨low, high⟩

/-- A quotient near a number is rounded to its significand on its grid. -/
theorem Near.roundHalfEven {num den : Nat} (near : Near significand exponent ((num : ℚ) / den))
    (positive : 0 < den) :
    roundHalfEven num den = significand := by
  have gap := gapBelow_le significand exponent
  refine roundHalfEven_eq_of_between positive (by linarith [near.low]) near.high ?_
  intro odd
  rw [Near, if_neg (by omega)] at near
  exact ⟨by linarith [near.1], near.2⟩

end Near

/-! ## Rounding to a number -/

theorem leastFull_cast : (leastFull : ℚ) = (2 : ℚ) ^ (52 : ℤ) := by
  norm_num [leastFull]

theorem significandBound_cast : (significandBound : ℚ) = (2 : ℚ) ^ (53 : ℤ) := by
  norm_num [significandBound]

/-- A quotient of so many steps lies below a power of two. -/
theorem ratioLog2_lt {num den : Nat} (numPositive : 0 < num) (positive : 0 < den)
    {exponent bits : Int} (less : (num : ℚ) / den / (2 : ℚ) ^ exponent < (2 : ℚ) ^ bits) :
    ratioLog2 num den < bits + exponent := by
  have power : (0 : ℚ) < (2 : ℚ) ^ exponent := zpow_pos (by norm_num) _
  rw [div_lt_iff₀ power, ← zpow_add₀ (by norm_num)] at less
  exact (zpow_lt_zpow_iff_right₀ (by norm_num)).1
    (lt_of_le_of_lt (ratioLog2_bounds numPositive positive).1 less)

/-- A quotient of so many steps does not lie below a power of two. -/
theorem le_ratioLog2 {num den : Nat} (numPositive : 0 < num) (positive : 0 < den)
    {exponent bits : Int} (notLess : (2 : ℚ) ^ bits ≤ (num : ℚ) / den / (2 : ℚ) ^ exponent) :
    bits + exponent ≤ ratioLog2 num den := by
  have power : (0 : ℚ) < (2 : ℚ) ^ exponent := zpow_pos (by norm_num) _
  rw [le_div_iff₀ power, ← zpow_add₀ (by norm_num)] at notLess
  have less := (zpow_lt_zpow_iff_right₀ (by norm_num : (1 : ℚ) < 2)).1
    (lt_of_le_of_lt notLess (ratioLog2_bounds numPositive positive).2)
  omega

section Rounding

variable {num den significand : Nat} {exponent : Int}

/-- The grid on which a quotient near a number is rounded: that of the number, or the next finer one
if the quotient is less than a power of two that the number is. -/
theorem gridExponent_of_near (numPositive : 0 < num) (positive : 0 < den)
    (normal : Normal significand exponent)
    (near : Near significand exponent ((num : ℚ) / den / (2 : ℚ) ^ exponent)) :
    max (ratioLog2 num den - 52) leastExponent = exponent ∨
      (max (ratioLog2 num den - 52) leastExponent = exponent - 1 ∧ significand = leastFull ∧
        (num : ℚ) / den / (2 : ℚ) ^ exponent < leastFull) := by
  obtain ⟨bounded, _, least, full⟩ := normal
  have below : (significand : ℚ) + 1 ≤ significandBound := by exact_mod_cast bounded
  have upper : ratioLog2 num den < 53 + exponent := by
    refine ratioLog2_lt numPositive positive ?_
    rw [← significandBound_cast]
    linarith [near.high]
  by_cases small : (num : ℚ) / den / (2 : ℚ) ^ exponent < leastFull
  · have logLess : ratioLog2 num den < 52 + exponent := by
      refine ratioLog2_lt numPositive positive ?_
      rwa [← leastFull_cast]
    by_cases atLeast : exponent = leastExponent
    · exact .inl (by omega)
    · have significandFull := full.resolve_right atLeast
      have same : significand = leastFull := by
        refine Nat.le_antisymm (Nat.le_of_not_lt fun greater => ?_) significandFull
        have cast : (leastFull : ℚ) + 1 ≤ significand := by exact_mod_cast greater
        linarith [near.low, gapBelow_le significand exponent]
      have logMore : 51 + exponent ≤ ratioLog2 num den := by
        refine le_ratioLog2 numPositive positive (le_trans ?_ near.low)
        have half : (2 : ℚ) ^ (51 : ℤ) + 1 ≤ leastFull := by norm_num [leastFull]
        rw [same]
        linarith [gapBelow_le leastFull exponent]
      exact .inr ⟨by omega, same, small⟩
  · have logMore : 52 + exponent ≤ ratioLog2 num den := by
      refine le_ratioLog2 numPositive positive ?_
      rw [← leastFull_cast]
      exact not_lt.1 small
    exact .inl (by omega)

theorem carried_of_normal (negative : Bool) (normal : Normal significand exponent)
    {rounded : Nat} {grid : Int} (sameRounded : rounded = significand) (sameGrid : grid = exponent)
    (small : rounded ≤ significandBound) (full : Full rounded grid) :
    carried negative rounded grid small full = .finite negative significand exponent normal := by
  subst sameRounded
  subst sameGrid
  rw [carried, dif_neg (Nat.ne_of_lt normal.1), dif_pos normal.2.1]

theorem carried_of_bound (negative : Bool) (normal : Normal leastFull exponent)
    {rounded : Nat} {grid : Int} (atBound : rounded = significandBound)
    (next : grid + 1 = exponent) (small : rounded ≤ significandBound) (full : Full rounded grid) :
    carried negative rounded grid small full = .finite negative leastFull exponent normal := by
  subst next
  rw [carried, dif_pos atBound, dif_pos normal.2.1]

/-- **A quotient near a number is rounded to it.** -/
theorem ofRatio_of_near (negative : Bool) (numPositive : 0 < num) (positive : 0 < den)
    (normal : Normal significand exponent)
    (near : Near significand exponent ((num : ℚ) / den / (2 : ℚ) ^ exponent)) :
    ofRatio negative num den positive = .finite negative significand exponent normal := by
  have scaled (grid : Int) : 0 < den * Nat.pow 2 grid.toNat :=
    Nat.mul_pos positive (pow_positive _)
  rw [ofRatio, dif_neg (Nat.ne_of_gt numPositive)]
  rcases gridExponent_of_near numPositive positive normal near with grid | ⟨grid, same, less⟩
  · refine carried_of_normal negative normal ?_ grid _ _
    rw [grid]
    rw [← scaled_quotient] at near
    exact near.roundHalfEven (scaled exponent)
  · subst same
    refine carried_of_bound negative normal ?_ (by omega) _ _
    rw [grid]
    have gap : gapBelow leastFull exponent = 1 / 4 := if_pos ⟨rfl, by omega⟩
    have low := near.low
    have finer : (num : ℚ) / den / (2 : ℚ) ^ (exponent - 1) =
        2 * ((num : ℚ) / den / (2 : ℚ) ^ exponent) := by
      rw [zpow_sub_one₀ (by norm_num)]
      field_simp
    have twice : (significandBound : ℚ) = 2 * leastFull := by
      norm_num [significandBound, leastFull]
    rw [gap] at low
    refine roundHalfEven_eq_of_between (scaled _) ?_ ?_ fun odd => absurd odd (by decide)
    · rw [scaled_quotient, finer]
      linarith
    · rw [scaled_quotient, finer]
      linarith

end Rounding

end DashboardExport.Binary64
