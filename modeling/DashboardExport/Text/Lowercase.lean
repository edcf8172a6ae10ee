import DashboardExport.Text.LetterCase

/-!
# Lower case

The full lower-case form of a text.  Two characters need more than a table row:
the dotted capital I lowers to two characters, and a capital sigma lowers to the
final form where it ends a word, which depends on its neighbours.  For ASCII text
the form is character by character (`lower_of_ascii`).
-/

set_option autoImplicit false

namespace DashboardExport.Text

/-- The code point a row of `lowerRows` sends the given one to, if the row applies. -/
def lowerByRow (code : Nat) : Nat × Nat × Nat × Int → Option Char
  | (first, last, step, shift) =>
    if first ≤ code && code ≤ last && (code - first) % step == 0 then
      some (Char.ofNat (code + shift).toNat)
    else none

/-- The lower-case form of a character, wherever it stands. -/
def lowerChar (c : Char) : List Char :=
  if c.toNat < 128 then [c.toLower]
  else if c.toNat == 0x130 then ['i', Char.ofNat 0x307]
  else [(lowerRows.findSome? (lowerByRow c.toNat)).getD c]

/-- Whether the first character that sigma's rule does not look past is a cased letter. -/
def startsCased : List Char → Bool
  | [] => false
  | c :: rest =>
    if inRanges caseIgnorableRanges c.toNat then startsCased rest
    else inRanges casedRanges c.toNat

/-- The lower-case form of the characters after `before`, which is kept reversed. -/
def lowerAfter (before : List Char) : List Char → List Char
  | [] => []
  | c :: rest =>
    (if c.toNat == 0x3A3 then
      [Char.ofNat (if startsCased before && !startsCased rest then 0x3C2 else 0x3C3)]
    else lowerChar c) ++ lowerAfter (c :: before) rest

/-- The lower-case form of a text. -/
def lower (text : String) : String :=
  String.ofList (lowerAfter [] text.toList)

theorem lowerAfter_of_ascii (before : List Char) :
    ∀ chars : List Char, (∀ c ∈ chars, c.toNat < 128) →
      lowerAfter before chars = chars.map Char.toLower := by
  intro chars
  induction chars generalizing before with
  | nil => intro _; rfl
  | cons c rest ih =>
    intro ascii
    have small : c.toNat < 128 := ascii c List.mem_cons_self
    have notSigma : (c.toNat == 0x3A3) = false := by
      simp only [beq_eq_false_iff_ne, ne_eq]; omega
    simp only [lowerAfter, notSigma, lowerChar, small, if_true, List.map_cons]
    rw [ih (c :: before) fun d hd => ascii d (List.mem_cons_of_mem _ hd)]
    simp

/-- **ASCII text is lowered character by character.** -/
theorem lower_of_ascii {text : String} (ascii : ∀ c ∈ text.toList, c.toNat < 128) :
    lower text = String.ofList (text.toList.map Char.toLower) := by
  rw [lower, lowerAfter_of_ascii [] _ ascii]

end DashboardExport.Text
