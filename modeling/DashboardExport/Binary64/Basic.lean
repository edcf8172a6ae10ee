/-!
# Double-precision numbers

The numbers with a 53-bit significand, as exact values.  A finite number is a
sign, a significand and a power of two, in the one form where the significand has
all its 53 bits unless the exponent is the least one; so two numbers are the same
value exactly when they are equal, zeros of different sign apart.

Every finite number enters through `ofRatio`, which rounds an exact quotient of
integers to the nearest number and a half to the even significand.
-/

set_option autoImplicit false

namespace DashboardExport

namespace Binary64

/-- The least significand with all its bits, two to the power of 52. -/
def leastFull : Nat := 0x10000000000000

/-- The bound of the significands, two to the power of 53. -/
def significandBound : Nat := 0x20000000000000

/-- The exponent of the numbers nearest to zero. -/
def leastExponent : Int := -1074

/-- The exponent of the largest numbers. -/
def greatestExponent : Int := 971

/-- A significand that has all its bits, unless the exponent is the least one. -/
def Full (significand : Nat) (exponent : Int) : Prop :=
  leastExponent ≤ exponent ∧ (leastFull ≤ significand ∨ exponent = leastExponent)

/-- The one form of a finite number. -/
def Normal (significand : Nat) (exponent : Int) : Prop :=
  significand < significandBound ∧ exponent ≤ greatestExponent ∧ Full significand exponent

end Binary64

/-- A double-precision number: `finite s m e` stands for `±m·2^e`. -/
inductive Binary64 where
  | nan
  | infinite (negative : Bool)
  | finite (negative : Bool) (significand : Nat) (exponent : Int)
      (normal : Binary64.Normal significand exponent)
  deriving DecidableEq

namespace Binary64

/-! ## Rounding a quotient -/

/-- The quotient rounded to the nearest integer, a half to the even one. -/
def roundHalfEven (num den : Nat) : Nat :=
  let quotient := num / den
  let remainder := num % den
  if 2 * remainder < den then quotient
  else if den < 2 * remainder then quotient + 1
  else quotient + quotient % 2

/-- A quotient of integers is rounded to itself when it is one. -/
theorem roundHalfEven_mul (n : Nat) {den : Nat} (positive : 0 < den) :
    roundHalfEven (n * den) den = n := by
  simp [roundHalfEven, Nat.mul_div_cancel _ positive, positive]

theorem le_roundHalfEven {num den least : Nat} (positive : 0 < den) (le : least * den ≤ num) :
    least ≤ roundHalfEven num den := by
  have := (Nat.le_div_iff_mul_le positive).2 le
  unfold roundHalfEven
  dsimp only
  split
  · exact this
  · split <;> omega

theorem roundHalfEven_le {num den bound : Nat} (positive : 0 < den) (lt : num < bound * den) :
    roundHalfEven num den ≤ bound := by
  have := (Nat.div_lt_iff_lt_mul positive).2 lt
  unfold roundHalfEven
  dsimp only
  split
  · omega
  · split <;> omega

/-- The exponent of the greatest power of two below a positive quotient. -/
def ratioLog2 (num den : Nat) : Int :=
  let guess : Int := (num.log2 : Int) - (den.log2 : Int)
  if den * Nat.pow 2 guess.toNat ≤ num * Nat.pow 2 (-guess).toNat then guess else guess - 1

/-- Whether a quotient is less than a power of two. -/
def BelowPower (num den : Nat) (exponent : Int) : Prop :=
  num * Nat.pow 2 (-exponent).toNat < den * Nat.pow 2 exponent.toNat

theorem pow_positive (n : Nat) : 0 < Nat.pow 2 n := Nat.pow_pos (by decide)

theorem pow_add' (m n : Nat) : Nat.pow 2 (m + n) = Nat.pow 2 m * Nat.pow 2 n := Nat.pow_add 2 m n

/-- Both sides of the comparison can be scaled. -/
theorem belowPower_iff {num den : Nat} {exponent : Int} (scale : Nat)
    (enough : 0 ≤ (scale : Int) + exponent) :
    BelowPower num den exponent ↔
      num * Nat.pow 2 scale < den * Nat.pow 2 ((scale : Int) + exponent).toNat := by
  obtain ⟨more, moreEq⟩ : ∃ more, scale = (-exponent).toNat + more :=
    ⟨scale - (-exponent).toNat, by omega⟩
  have shifted : ((scale : Int) + exponent).toNat = exponent.toNat + more := by omega
  rw [shifted, moreEq, pow_add', pow_add', ← Nat.mul_assoc, ← Nat.mul_assoc]
  exact (Nat.mul_lt_mul_right (pow_positive more)).symm

theorem belowPower_mono {num den : Nat} {less greater : Int} (le : less ≤ greater)
    (below : BelowPower num den less) : BelowPower num den greater := by
  let scale := (-less).toNat
  have enough : 0 ≤ (scale : Int) + less := by omega
  rw [belowPower_iff scale (by omega)]
  refine Nat.lt_of_lt_of_le ((belowPower_iff scale enough).1 below) (Nat.mul_le_mul_left den ?_)
  exact Nat.pow_le_pow_right (by decide) (by omega)

/-- A quotient is less than the power of two after its logarithm. -/
theorem belowPower_ratioLog2 {num den : Nat} (positive : 0 < den) :
    BelowPower num den (ratioLog2 num den + 1) := by
  unfold ratioLog2
  dsimp only
  split
  · have numLt : num < Nat.pow 2 (num.log2 + 1) := Nat.lt_log2_self
    have denLe : Nat.pow 2 den.log2 ≤ den := Nat.log2_self_le (Nat.ne_of_gt positive)
    rw [belowPower_iff den.log2 (by omega)]
    have shifted : ((den.log2 : Int) + ((num.log2 : Int) - (den.log2 : Int) + 1)).toNat =
        num.log2 + 1 := by omega
    rw [shifted, Nat.mul_comm den]
    exact Nat.mul_lt_mul_of_lt_of_le numLt denLe positive
  · rename_i notLe
    rw [Int.sub_add_cancel]
    exact Nat.lt_of_not_le notLe

/-- A positive quotient is not less than the power of two of its logarithm. -/
theorem not_belowPower_ratioLog2 {num den : Nat} (numPositive : 0 < num) :
    ¬ BelowPower num den (ratioLog2 num den) := by
  unfold ratioLog2
  dsimp only
  split
  · rename_i le
    exact Nat.not_lt_of_le le
  · have numLe : Nat.pow 2 num.log2 ≤ num := Nat.log2_self_le (Nat.ne_of_gt numPositive)
    have denLt : den < Nat.pow 2 (den.log2 + 1) := Nat.lt_log2_self
    rw [belowPower_iff (den.log2 + 1) (by omega)]
    have shifted :
        (((den.log2 + 1 : Nat) : Int) + ((num.log2 : Int) - (den.log2 : Int) - 1)).toNat =
          num.log2 := by omega
    rw [shifted, Nat.mul_comm den]
    exact Nat.not_lt_of_le (Nat.mul_le_mul numLe (Nat.le_of_lt denLt))

/-- A quotient below a power of two, rounded on the grid of 53 bits under it. -/
theorem full_roundHalfEven {num den : Nat} (numPositive : 0 < num) (positive : 0 < den)
    {exponent : Int} (exponentEq : exponent = max (ratioLog2 num den - 52) leastExponent) :
    let significand := roundHalfEven (num * Nat.pow 2 (-exponent).toNat)
      (den * Nat.pow 2 exponent.toNat)
    significand ≤ significandBound ∧ Full significand exponent := by
  dsimp only
  have scaled : 0 < den * Nat.pow 2 exponent.toNat := Nat.mul_pos positive (pow_positive _)
  obtain ⟨scale, enough⟩ : ∃ scale : Nat, scale = (-exponent).toNat := ⟨_, rfl⟩
  refine ⟨roundHalfEven_le scaled ?_, by omega, ?_⟩
  · have below : BelowPower num den (exponent + 53) :=
      belowPower_mono (by omega) (belowPower_ratioLog2 positive)
    rw [belowPower_iff scale (by omega)] at below
    have shifted : ((scale : Int) + (exponent + 53)).toNat = 53 + exponent.toNat := by omega
    rw [shifted, pow_add', enough] at below
    have bound : Nat.pow 2 53 = significandBound := by decide
    rw [bound] at below
    rw [Nat.mul_left_comm]
    exact below
  · by_cases least : exponent = leastExponent
    · exact Or.inr least
    · refine Or.inl (le_roundHalfEven scaled ?_)
      have notBelow : ¬ BelowPower num den (ratioLog2 num den) :=
        not_belowPower_ratioLog2 numPositive
      have logEq : ratioLog2 num den = exponent + 52 := by omega
      rw [logEq, belowPower_iff scale (by omega)] at notBelow
      have shifted : ((scale : Int) + (exponent + 52)).toNat = 52 + exponent.toNat := by omega
      rw [shifted, pow_add', enough] at notBelow
      have bound : Nat.pow 2 52 = leastFull := by decide
      rw [bound] at notBelow
      rw [Nat.mul_left_comm]
      exact Nat.le_of_not_lt notBelow

/-- A rounded significand with its exponent, carried into the next binade or to infinity. -/
def carried (negative : Bool) (significand : Nat) (exponent : Int)
    (small : significand ≤ significandBound) (full : Full significand exponent) : Binary64 :=
  if atBound : significand = significandBound then
    if inRange : exponent + 1 ≤ greatestExponent then
      .finite negative leastFull (exponent + 1)
        ⟨by decide, inRange, Int.le_add_one full.1, Or.inl (Nat.le_refl _)⟩
    else .infinite negative
  else if inRange : exponent ≤ greatestExponent then
    .finite negative significand exponent ⟨Nat.lt_of_le_of_ne small atBound, inRange, full⟩
  else .infinite negative

/-- Zero, with a sign. -/
def zero (negative : Bool) : Binary64 :=
  .finite negative 0 leastExponent ⟨by decide, by decide, Int.le_refl _, Or.inr rfl⟩

/-- The number nearest to a quotient. -/
def ofRatio (negative : Bool) (num den : Nat) (positive : 0 < den) : Binary64 :=
  if isZero : num = 0 then zero negative
  else
    let exponent := max (ratioLog2 num den - 52) leastExponent
    have rounded := full_roundHalfEven (Nat.pos_of_ne_zero isZero) positive rfl
    carried negative
      (roundHalfEven (num * Nat.pow 2 (-exponent).toNat) (den * Nat.pow 2 exponent.toNat))
      exponent rounded.1 rounded.2

/-- The number nearest to an integer; infinite when the integer is out of range. -/
def ofInt (n : Int) : Binary64 := ofRatio (decide (n < 0)) n.natAbs 1 (by decide)

/-- The number nearest to `±digits·10^exponent`.  Exponents far out of range are settled by the
number of digits alone, so no huge power is ever formed. -/
def ofDecimal (negative : Bool) (digits : Nat) (exponent : Int) : Binary64 :=
  let size : Int := ((Nat.toDigits 10 digits).length : Int) + exponent
  if digits = 0 then zero negative
  else if 400 < size then .infinite negative
  else if size < -400 then zero negative
  else
    ofRatio negative (digits * Nat.pow 10 exponent.toNat) (Nat.pow 10 (-exponent).toNat)
      (Nat.pow_pos (by decide))

/-- The integer that a finite number is truncated to, toward zero. -/
def truncate? : Binary64 → Option Int
  | .finite negative significand exponent _ =>
    let magnitude := significand * Nat.pow 2 exponent.toNat / Nat.pow 2 (-exponent).toNat
    some (if negative then -(magnitude : Int) else magnitude)
  | _ => none

/-- Whether the number is a finite integer. -/
def isIntegral : Binary64 → Bool
  | .finite _ significand exponent _ =>
    significand * Nat.pow 2 exponent.toNat % Nat.pow 2 (-exponent).toNat == 0
  | _ => false

def isFinite : Binary64 → Bool
  | .finite .. => true
  | _ => false

/-- Whether the number equals zero, of either sign. -/
def isZero : Binary64 → Bool
  | .finite _ significand _ _ => significand == 0
  | _ => false

/-- The number with the opposite sign. -/
def neg : Binary64 → Binary64
  | .nan => .nan
  | .infinite negative => .infinite (!negative)
  | .finite negative significand exponent normal =>
    .finite (!negative) significand exponent normal

/-- A finite number as a multiple of a power of two that is not greater than its own. -/
def asMultiple (negative : Bool) (significand : Nat) (exponent least : Int) : Int :=
  let magnitude : Int := (significand * Nat.pow 2 (exponent - least).toNat : Nat)
  if negative then -magnitude else magnitude

/-- The sum of two numbers. -/
def add : Binary64 → Binary64 → Binary64
  | .finite s m e _, .finite t n f _ =>
    let least := min e f
    let total := asMultiple s m e least + asMultiple t n f least
    if total = 0 then zero (s && t)
    else
      ofRatio (decide (total < 0)) (total.natAbs * Nat.pow 2 least.toNat)
        (Nat.pow 2 (-least).toNat) (pow_positive _)
  | .nan, _ => .nan
  | _, .nan => .nan
  | .infinite s, .infinite t => if s = t then .infinite s else .nan
  | .infinite s, _ => .infinite s
  | _, .infinite t => .infinite t

/-- A number times a positive natural number, which is rounded first. -/
def mulNat (x : Binary64) (factor : Nat) : Binary64 :=
  match x, ofInt factor with
  | .finite s m e _, .finite _ n f _ =>
    ofRatio s (m * n * Nat.pow 2 (e + f).toNat) (Nat.pow 2 (-(e + f)).toNat) (pow_positive _)
  | .nan, _ => .nan
  | .infinite s, _ => .infinite s
  | .finite s _ _ _, _ => .infinite s

end Binary64

end DashboardExport
