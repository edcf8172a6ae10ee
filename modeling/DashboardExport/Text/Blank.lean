import DashboardExport.Text.CodeRange

/-!
# Blank characters

Two rules for what counts as blank are in use.  The *white space* property of
Unicode decides what is trimmed from a number written as text; the wider class of
*blanks*, which adds the four information separators, decides what is trimmed
from the lines of a profile file.
-/

set_option autoImplicit false

namespace DashboardExport.Text

/-- The Unicode white space property. -/
def isWhiteSpace (c : Char) : Bool :=
  inRanges
    [(0x09, 0x0D), (0x20, 0x20), (0x85, 0x85), (0xA0, 0xA0), (0x1680, 0x1680), (0x2000, 0x200A),
      (0x2028, 0x2029), (0x202F, 0x202F), (0x205F, 0x205F), (0x3000, 0x3000)] c.toNat

/-- White space or an information separator. -/
def isBlank (c : Char) : Bool :=
  isWhiteSpace c || inRanges [(0x1C, 0x1F)] c.toNat

/-- What is left of a list once its trailing members of a class are dropped. -/
def dropTrailing (drop : Char → Bool) (chars : List Char) : List Char :=
  (chars.reverse.dropWhile drop).reverse

/-- Drops the members of a class at both ends. -/
def trimBoth (drop : Char → Bool) (chars : List Char) : List Char :=
  dropTrailing drop (chars.dropWhile drop)

/-- The parts of a list between the members of a class; there is one more part than members. -/
def splitAtEvery (cut : Char → Bool) : List Char → List (List Char)
  | [] => [[]]
  | c :: rest =>
    match splitAtEvery cut rest with
    | [] => [[c]]
    | part :: parts => if cut c then [] :: part :: parts else (c :: part) :: parts

/-- Every white space character of ASCII is blank. -/
theorem isBlank_of_isWhitespace {c : Char} (h : c.isWhitespace = true) : isBlank c = true := by
  simp only [Char.isWhitespace, Bool.or_eq_true, decide_eq_true_eq] at h
  rcases h with ((h | h) | h) | h <;> subst h <;> decide

/-- **What ASCII prints with ink is not blank.** -/
theorem isBlank_of_printed {c : Char} (low : 0x21 ≤ c.toNat) (high : c.toNat ≤ 0x7E) :
    isBlank c = false := by
  refine Bool.eq_false_iff.2 ?_
  intro blank
  simp only [isBlank, isWhiteSpace, Bool.or_eq_true, inRanges_eq_true_iff] at blank
  rcases blank with ⟨range, member, bounds⟩ | ⟨range, member, bounds⟩
  · simp only [List.mem_cons, List.not_mem_nil, or_false] at member
    rcases member with rfl | rfl | rfl | rfl | rfl | rfl | rfl | rfl | rfl | rfl <;> omega
  · rw [List.mem_singleton.1 member] at bounds
    omega

theorem isBlank_of_isDigit {c : Char} (digit : c.isDigit = true) : isBlank c = false := by
  simp only [Char.isDigit, Bool.and_eq_true, decide_eq_true_eq] at digit
  have low : 48 ≤ c.toNat := digit.1
  have high : c.toNat ≤ 57 := digit.2
  exact isBlank_of_printed (by omega) (by omega)

end DashboardExport.Text
