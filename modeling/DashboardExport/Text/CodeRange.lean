/-!
# Ranges of code points

The Unicode properties this library needs are given as sorted lists of closed
ranges of code points, from version 14 of the standard.  A character has the
property when some range holds its code point; nothing below ever builds the set
itself.
-/

set_option autoImplicit false

namespace DashboardExport.Text

/-- Whether some closed range of the list holds the number. -/
def inRanges (ranges : List (Nat × Nat)) (code : Nat) : Bool :=
  ranges.any fun range => range.1 ≤ code && code ≤ range.2

/-- **Membership is the expected existential.** -/
theorem inRanges_eq_true_iff {ranges : List (Nat × Nat)} {code : Nat} :
    inRanges ranges code = true ↔ ∃ range ∈ ranges, range.1 ≤ code ∧ code ≤ range.2 := by
  simp [inRanges]

end DashboardExport.Text
