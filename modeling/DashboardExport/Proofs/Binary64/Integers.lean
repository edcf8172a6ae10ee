import DashboardExport.Binary64.Basic
import Mathlib.Algebra.Order.Ring.Nat
import Mathlib.Tactic.SplitIfs

/-!
# Integers as numbers

An integer that is taken as a number keeps 53 of its bits.  What the number is truncated to
is the integer with at most so many significant bits that is nearest to the given one, and
of two that are equally near the one with the even significand
(`nearest_of_truncate?_ofInt`).  This determines the integer (`Nearest.unique`), and it is
the given one exactly when that has no more significant bits (`Nearest.eq_iff`), whatever
its size is.
-/

set_option autoImplicit false

namespace DashboardExport.Binary64

/-! ## Rounding to an integer -/

section Rounding

variable {num den : Nat} (positive : 0 < den)
include positive

/-- A quotient is rounded by at most one half, and by one half only to an even integer. -/
theorem roundHalfEven_near :
    2 * (roundHalfEven num den * den) ≤ 2 * num + den ∧
      2 * num ≤ 2 * (roundHalfEven num den * den) + den ∧
      (roundHalfEven num den % 2 = 1 →
        2 * (roundHalfEven num den * den) < 2 * num + den ∧
          2 * num < 2 * (roundHalfEven num den * den) + den) := by
  have whole := Nat.div_add_mod' num den
  have small := Nat.mod_lt num positive
  rw [roundHalfEven]
  split_ifs with below above
  · omega
  · rw [Nat.succ_mul (num / den) den]
    omega
  · rcases Nat.mod_two_eq_zero_or_one (num / den) with even | odd
    · rw [even, Nat.add_zero]
      omega
    · rw [odd, Nat.succ_mul (num / den) den]
      omega

/-- **No multiple of the divisor is nearer** than the one that a quotient is rounded to; if another
one is as near, the quotient was rounded to an even integer. -/
theorem roundHalfEven_nearest (other : Nat) :
    ((num : Int) - (roundHalfEven num den * den : Nat)).natAbs ≤
        ((num : Int) - (other * den : Nat)).natAbs ∧
      (((num : Int) - (roundHalfEven num den * den : Nat)).natAbs =
          ((num : Int) - (other * den : Nat)).natAbs →
        other = roundHalfEven num den ∨ roundHalfEven num den % 2 = 0) := by
  obtain ⟨low, high, odd⟩ := @roundHalfEven_near num den positive
  rcases Nat.lt_trichotomy other (roundHalfEven num den) with less | same | greater
  · have step := Nat.mul_le_mul_right den less
    rw [Nat.succ_mul] at step
    omega
  · rw [same]
    exact ⟨Nat.le_refl _, fun _ => .inl rfl⟩
  · have step := Nat.mul_le_mul_right den greater
    rw [Nat.succ_mul] at step
    omega

end Rounding

/-! ## Significant bits -/

/-- Integers with at most so many significant bits. -/
def FitsBits (bits : Nat) (n : Int) : Prop :=
  ∃ significand exponent : Nat, significand < 2 ^ bits ∧ n.natAbs = significand * 2 ^ exponent

theorem fitsBits_neg {bits : Nat} {n : Int} : FitsBits bits (-n) ↔ FitsBits bits n := by
  rw [FitsBits, FitsBits, Int.natAbs_neg]

/-- A power of two can be the significand too: it has a single significant bit. -/
theorem fitsBits_mul_pow {bits : Nat} (some : 0 < bits) {significand : Nat}
    (most : significand ≤ 2 ^ bits) (exponent : Nat) :
    FitsBits bits (significand * 2 ^ exponent : Nat) := by
  rcases Nat.lt_or_eq_of_le most with less | rfl
  · exact ⟨significand, exponent, less, Int.natAbs_natCast _⟩
  · refine ⟨1, bits + exponent, Nat.one_lt_two_pow (Nat.ne_of_gt some), ?_⟩
    rw [Int.natAbs_natCast, Nat.one_mul, Nat.pow_add]

/-- Every integer up to a power of two has no more significant bits. -/
theorem fitsBits_of_natAbs_le {bits : Nat} (some : 0 < bits) {n : Int}
    (most : n.natAbs ≤ 2 ^ bits) : FitsBits bits n := by
  obtain ⟨significand, exponent, less, same⟩ := fitsBits_mul_pow some most 0
  rw [Int.natAbs_natCast, Nat.pow_zero, Nat.mul_one] at same
  exact ⟨significand, exponent, less, same⟩

/-- **An integer with few significant bits lies on a grid**, or below the power of two at which the
integers on this grid have all their bits. -/
theorem FitsBits.on_grid_or_lt {bits : Nat} {n : Int} (fits : FitsBits (bits + 1) n)
    (lost : Nat) :
    (∃ multiple : Nat, n = (multiple * 2 ^ lost : Nat)) ∨ n < (2 ^ (bits + lost) : Nat) := by
  obtain ⟨significand, exponent, less, same⟩ := fits
  by_cases enough : lost ≤ exponent ∧ 0 ≤ n
  · left
    refine ⟨significand * 2 ^ (exponent - lost), ?_⟩
    rw [Nat.mul_assoc, ← Nat.pow_add, Nat.sub_add_cancel enough.1, ← same]
    omega
  · right
    by_cases negative : n < 0
    · exact lt_of_lt_of_le negative (Int.natCast_nonneg _)
    · have short : n.natAbs < 2 ^ (bits + 1 + exponent) := by
        rw [same, Nat.pow_add]
        exact Nat.mul_lt_mul_of_pos_right less (Nat.two_pow_pos exponent)
      have grows : 2 ^ (bits + 1 + exponent) ≤ 2 ^ (bits + lost) :=
        Nat.pow_le_pow_right (by decide) (by omega)
      omega

/-! ## The nearest integer -/

/-- An integer is nearest to another one among those with at most 53 significant bits, and of two
that are equally near it is the one with an even significand. -/
structure Nearest (n nearest : Int) : Prop where
  fits : FitsBits 53 nearest
  closest : ∀ other, FitsBits 53 other → (n - nearest).natAbs ≤ (n - other).natAbs
  tie : ∀ other, FitsBits 53 other → (n - nearest).natAbs = (n - other).natAbs →
    other = nearest ∨ FitsBits 52 nearest

/-- **An integer is nearest to itself exactly when it has no more significant bits.** -/
theorem Nearest.eq_iff {n nearest : Int} (near : Nearest n nearest) :
    nearest = n ↔ FitsBits 53 n := by
  constructor
  · rintro rfl
    exact near.fits
  · intro fits
    have none := near.closest n fits
    omega

theorem nearest_self {n : Int} (fits : FitsBits 53 n) : Nearest n n := by
  refine ⟨fits, fun other _ => ?_, fun other _ same => .inl ?_⟩
  · rw [Int.sub_self, Int.natAbs_zero]
    exact Nat.zero_le _
  · omega

theorem Nearest.neg {n nearest : Int} (near : Nearest n nearest) : Nearest (-n) (-nearest) := by
  have mirrored (other : Int) : (-n - other).natAbs = (n - -other).natAbs := by omega
  refine ⟨fitsBits_neg.2 near.fits, fun other fits => ?_, fun other fits same => ?_⟩
  · rw [mirrored, mirrored, Int.neg_neg]
    exact near.closest (-other) (fitsBits_neg.2 fits)
  · rw [mirrored, mirrored, Int.neg_neg] at same
    rw [fitsBits_neg]
    refine (near.tie (-other) (fitsBits_neg.2 fits) same).imp_left fun opposite => ?_
    omega

/-- Between two multiples of a power of two, of which the lower one has few bits, there is an
integer with one bit more. -/
theorem exists_fits_between_multiples {bits low high exponent : Nat} (few : low < 2 ^ bits)
    (gap : low * 2 ^ exponent + 2 ≤ high * 2 ^ exponent) :
    ∃ middle : Nat, low * 2 ^ exponent < middle ∧ middle < high * 2 ^ exponent ∧
      FitsBits (bits + 1) middle := by
  have less : low < high := Nat.lt_of_mul_lt_mul_right (a := 2 ^ exponent) (by omega)
  have double : 2 ^ (bits + 1) = 2 * 2 ^ bits := Nat.pow_succ'
  rcases Nat.lt_or_eq_of_le less with apart | rfl
  · refine ⟨(low + 1) * 2 ^ exponent, ?_, ?_, fitsBits_mul_pow (Nat.succ_pos _) (by omega) _⟩
    · exact Nat.mul_lt_mul_of_pos_right (Nat.lt_succ_self low) (Nat.two_pow_pos _)
    · exact Nat.mul_lt_mul_of_pos_right apart (Nat.two_pow_pos _)
  · cases exponent with
    | zero => omega
    | succ exponent =>
        have half : low.succ * 2 ^ (exponent + 1) = (2 * low + 2) * 2 ^ exponent := by
          rw [Nat.pow_succ', ← Nat.mul_assoc, Nat.mul_comm _ 2, Nat.mul_succ]
        have whole : low * 2 ^ (exponent + 1) = 2 * low * 2 ^ exponent := by
          rw [Nat.pow_succ', ← Nat.mul_assoc, Nat.mul_comm _ 2]
        rw [half, whole]
        refine ⟨(2 * low + 1) * 2 ^ exponent, ?_, ?_,
          fitsBits_mul_pow (Nat.succ_pos _) (by omega) _⟩
        · exact Nat.mul_lt_mul_of_pos_right (Nat.lt_succ_self _) (Nat.two_pow_pos _)
        · exact Nat.mul_lt_mul_of_pos_right (Nat.lt_succ_self _) (Nat.two_pow_pos _)

/-- The same for integers that are not negative: on a grid that both lie on, the lower one has few
bits. -/
theorem exists_fits_between {bits low high : Nat} (first : FitsBits bits low)
    (second : FitsBits bits high) (gap : low + 2 ≤ high) :
    ∃ middle : Nat, low < middle ∧ middle < high ∧ FitsBits (bits + 1) middle := by
  obtain ⟨s, e, few, same⟩ := first
  obtain ⟨t, f, few', same'⟩ := second
  rw [Int.natAbs_natCast] at same same'
  rcases Nat.le_total e f with le | le
  · have grid : high = t * 2 ^ (f - e) * 2 ^ e := by
      rw [same', Nat.mul_assoc, ← Nat.pow_add, Nat.sub_add_cancel le]
    rw [same, grid] at gap ⊢
    exact exists_fits_between_multiples few gap
  · have grid : low = s * 2 ^ (e - f) * 2 ^ f := by
      rw [same, Nat.mul_assoc, ← Nat.pow_add, Nat.sub_add_cancel le]
    rw [same', grid] at gap ⊢
    have less : s * 2 ^ (e - f) < t := Nat.lt_of_mul_lt_mul_right (a := 2 ^ f) (by omega)
    exact exists_fits_between_multiples (less.trans few') gap

/-- **Between integers with few bits that are not neighbours there is one with one bit more.** -/
theorem FitsBits.exists_between {bits : Nat} {low high : Int} (first : FitsBits bits low)
    (second : FitsBits bits high) (gap : low + 2 ≤ high) :
    ∃ middle : Int, low < middle ∧ middle < high ∧ FitsBits (bits + 1) middle := by
  rcases Int.lt_or_le low 0 with below | above
  · rcases Int.lt_or_le 0 high with positive | under
    · exact ⟨0, below, positive, fitsBits_of_natAbs_le (Nat.succ_pos _) (Nat.zero_le _)⟩
    · obtain ⟨l, rfl⟩ := Int.exists_eq_neg_ofNat under
      obtain ⟨h, rfl⟩ := Int.exists_eq_neg_ofNat below.le
      obtain ⟨middle, more, less, fits⟩ := exists_fits_between (fitsBits_neg.1 second)
        (fitsBits_neg.1 first) (by omega)
      exact ⟨-middle, by omega, by omega, fitsBits_neg.2 fits⟩
  · obtain ⟨l, rfl⟩ := Int.eq_ofNat_of_zero_le above
    obtain ⟨h, rfl⟩ := Int.eq_ofNat_of_zero_le (by omega : 0 ≤ high)
    obtain ⟨middle, more, less, fits⟩ := exists_fits_between first second (by omega)
    exact ⟨middle, by omega, by omega, fits⟩

/-- **There is one nearest integer.**  Two would be equally near and both have an even significand,
so a third one lay between them. -/
theorem Nearest.unique {n nearest other : Int} (near : Nearest n nearest)
    (near' : Nearest n other) : nearest = other := by
  have one {low high : Int} (near : Nearest n low) (near' : Nearest n high) : ¬ low < high := by
    intro less
    have most := near.closest high near'.fits
    have least := near'.closest low near.fits
    have few := (near.tie high near'.fits (by omega)).resolve_left (by omega)
    have few' := (near'.tie low near.fits (by omega)).resolve_left (by omega)
    obtain ⟨middle, above, below, fits⟩ := few.exists_between few' (by omega)
    have far := near.closest middle fits
    omega
  have up := one near near'
  have down := one near' near
  omega

/-! ## Keeping the bits of a significand -/

/-- The bits that an integer has beyond those of a significand. -/
def lostBits (n : Nat) : Nat := n.log2 - 52

/-- An integer rounded to the bits of a significand. -/
def keepBits (n : Nat) : Nat := roundHalfEven n (2 ^ lostBits n) * 2 ^ lostBits n

theorem keepBits_of_lostBits {n : Nat} (none : lostBits n = 0) : keepBits n = n := by
  have same := roundHalfEven_mul n Nat.one_pos
  rw [Nat.mul_one] at same
  rw [keepBits, none, Nat.pow_zero, same, Nat.mul_one]

/-- An integer that loses no bits has no more than a significand. -/
theorem fitsBits_of_lostBits {n : Nat} (none : lostBits n = 0) : FitsBits 53 n := by
  refine fitsBits_of_natAbs_le (by decide) (Nat.le_of_lt ?_)
  rw [Int.natAbs_natCast]
  refine Nat.lt_of_lt_of_le Nat.lt_log2_self (Nat.pow_le_pow_right (by decide) ?_)
  rw [lostBits] at none
  omega

/-- An integer that loses bits is not less than the power of two at which its grid begins. -/
theorem grid_le_of_lostBits {n : Nat} (some : lostBits n ≠ 0) : 2 ^ (52 + lostBits n) ≤ n := by
  have large : n ≠ 0 := by
    rintro rfl
    exact some rfl
  refine Nat.le_trans (Nat.pow_le_pow_right (by decide) ?_) (Nat.log2_self_le large)
  rw [lostBits] at some ⊢
  omega

theorem roundHalfEven_lostBits_le (n : Nat) : roundHalfEven n (2 ^ lostBits n) ≤ 2 ^ 53 := by
  refine roundHalfEven_le (Nat.two_pow_pos _) ?_
  rw [← Nat.pow_add]
  refine Nat.lt_of_lt_of_le Nat.lt_log2_self (Nat.pow_le_pow_right (by decide) ?_)
  rw [lostBits]
  omega

/-- Another integer with as many bits lies on the same grid, or farther away: below the power of two
at which the grid begins, which lies on the grid itself. -/
theorem FitsBits.on_grid_or_farther {n : Nat} (lossy : lostBits n ≠ 0) {other : Int}
    (fits : FitsBits 53 other) :
    (∃ multiple : Nat, other = (multiple * 2 ^ lostBits n : Nat)) ∨
      ((n : Int) - (keepBits n : Nat)).natAbs < ((n : Int) - other).natAbs := by
  refine (fits.on_grid_or_lt (lostBits n)).imp_right fun below => ?_
  have begins := grid_le_of_lostBits lossy
  have first := (@roundHalfEven_nearest n _ (Nat.two_pow_pos (lostBits n)) (2 ^ 52)).1
  rw [← Nat.pow_add] at first
  rw [keepBits]
  omega

theorem fitsBits_keepBits (n : Nat) : FitsBits 53 (keepBits n) :=
  fitsBits_mul_pow (by decide) (roundHalfEven_lostBits_le n) _

/-- An integer that was rounded to an even significand can do with one bit less. -/
theorem fitsBits_keepBits_of_even {n : Nat} (even : roundHalfEven n (2 ^ lostBits n) % 2 = 0) :
    FitsBits 52 (keepBits n) := by
  have most := roundHalfEven_lostBits_le n
  obtain ⟨half, twice⟩ := Nat.dvd_of_mod_eq_zero even
  have kept : keepBits n = half * 2 ^ (lostBits n + 1) := by
    rw [keepBits, twice, Nat.mul_comm 2, Nat.mul_assoc, ← Nat.pow_succ']
  rw [kept]
  exact fitsBits_mul_pow (by decide) (by omega) _

/-- **Keeping the bits of a significand leads to the nearest integer that has no more.** -/
theorem nearest_keepBits (n : Nat) : Nearest n (keepBits n) := by
  by_cases exact : lostBits n = 0
  · rw [keepBits_of_lostBits exact]
    exact nearest_self (fitsBits_of_lostBits exact)
  · have grid : 0 < 2 ^ lostBits n := Nat.two_pow_pos _
    refine ⟨fitsBits_keepBits n, fun other fits => ?_, fun other fits same => ?_⟩
    · rcases fits.on_grid_or_farther exact with ⟨multiple, rfl⟩ | farther
      · exact (roundHalfEven_nearest grid multiple).1
      · exact farther.le
    · rcases fits.on_grid_or_farther exact with ⟨multiple, rfl⟩ | farther
      · rcases (roundHalfEven_nearest grid multiple).2 same with rfl | even
        · exact .inl rfl
        · exact .inr (fitsBits_keepBits_of_even even)
      · exact absurd same farther.ne

/-! ## Integers that are taken as numbers -/

theorem ratioLog2_one {n : Nat} (positive : 0 < n) : ratioLog2 n 1 = n.log2 := by
  have least : Nat.pow 2 n.log2 ≤ n := Nat.log2_self_le (Nat.ne_of_gt positive)
  have guess : (n.log2 : Int) - (Nat.log2 1 : Nat) = n.log2 := Int.sub_zero _
  rw [ratioLog2]
  simp only [guess]
  rw [Int.toNat_natCast, if_pos]
  rw [Int.toNat_neg_natCast, Nat.one_mul]
  exact least.trans_eq (Nat.mul_one n).symm

/-- The size of a finite number, without its fraction. -/
def size (significand : Nat) (exponent : Int) : Nat :=
  significand * Nat.pow 2 exponent.toNat / Nat.pow 2 (-exponent).toNat

/-- A number keeps its size when its significand is carried into the next binade. -/
theorem size_carried (exponent : Int) :
    size leastFull (exponent + 1) = size significandBound exponent := by
  have twice : significandBound = leastFull * Nat.pow 2 1 := rfl
  rw [size, size, twice]
  by_cases whole : 0 ≤ exponent
  · have up : (exponent + 1).toNat = 1 + exponent.toNat := by omega
    have down : (-(exponent + 1)).toNat = (-exponent).toNat := by omega
    rw [up, down, pow_add', Nat.mul_assoc]
  · have up : (exponent + 1).toNat = exponent.toNat := by omega
    have down : (-exponent).toNat = (-(exponent + 1)).toNat + 1 := by omega
    rw [up, down, pow_add', Nat.mul_right_comm, Nat.mul_div_mul_right _ _ (pow_positive 1)]

theorem eq_of_truncate?_carried {negative : Bool} {significand : Nat} {exponent n : Int}
    {small : significand ≤ significandBound} {full : Full significand exponent}
    (read : (carried negative significand exponent small full).truncate? = some n) :
    n = if negative then -(size significand exponent : Int) else size significand exponent := by
  rw [carried] at read
  split_ifs at read with atBound
  · rw [atBound, ← size_carried]
    exact (Option.some.inj read).symm
  · cases read
  · exact (Option.some.inj read).symm
  · cases read

/-- The significand that an integer is rounded to has the size of the bits that are kept. -/
theorem size_ofInt (n : Nat) {exponent : Int} (placed : exponent = (n.log2 : Int) - 52) :
    size (roundHalfEven (n * Nat.pow 2 (-exponent).toNat) (1 * Nat.pow 2 exponent.toNat))
      exponent = keepBits n := by
  by_cases whole : 0 ≤ exponent
  · have up : exponent.toNat = lostBits n := by
      rw [lostBits]
      omega
    have down : (-exponent).toNat = 0 := by omega
    rw [size, up, down, Nat.pow_eq, Nat.pow_eq, Nat.pow_zero, Nat.mul_one, Nat.one_mul,
      Nat.div_one, keepBits]
  · have up : exponent.toNat = 0 := by omega
    have none : lostBits n = 0 := by
      rw [lostBits]
      omega
    have exact := roundHalfEven_mul (n * Nat.pow 2 (-exponent).toNat) Nat.one_pos
    rw [Nat.mul_one] at exact
    have unit : Nat.pow 2 0 = 1 := rfl
    rw [size, up, unit, Nat.mul_one, Nat.mul_one, exact, Nat.mul_div_cancel _ (pow_positive _),
      keepBits_of_lostBits none]

/-- **An integer that is taken as a number keeps the bits of a significand.** -/
theorem eq_of_truncate?_ofInt {n whole : Int} (read : (ofInt n).truncate? = some whole) :
    whole = if n < 0 then -(keepBits n.natAbs : Int) else keepBits n.natAbs := by
  rw [ofInt, ofRatio] at read
  split_ifs at read with isZero
  · simp only [zero, truncate?, Nat.zero_mul, Nat.zero_div, Option.some.injEq] at read
    rw [← read, Int.natAbs_eq_zero.1 isZero]
    rfl
  · have placed : max (ratioLog2 n.natAbs 1 - 52) leastExponent = (n.natAbs.log2 : Int) - 52 := by
      rw [ratioLog2_one (Nat.pos_of_ne_zero isZero), leastExponent]
      omega
    have same := eq_of_truncate?_carried read
    rw [size_ofInt n.natAbs placed] at same
    simpa using same

/-- **An integer that is taken as a number is rounded to the nearest integer with as many bits.** -/
theorem nearest_of_truncate?_ofInt {n whole : Int} (read : (ofInt n).truncate? = some whole) :
    Nearest n whole := by
  have near := nearest_keepBits n.natAbs
  rw [eq_of_truncate?_ofInt read]
  split_ifs with negative
  · have mirrored := near.neg
    rw [Int.ofNat_natAbs_of_nonpos negative.le, Int.neg_neg] at mirrored
    exact mirrored
  · rw [Int.natAbs_of_nonneg (Int.not_lt.1 negative)] at near
    exact near

end DashboardExport.Binary64
