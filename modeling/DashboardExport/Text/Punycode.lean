/-!
# Punycode

Punycode writes a text with ASCII characters alone.  First come the ASCII characters
of the text and a hyphen; the others follow as insertions, in the order of their code
points.  Each insertion is the distance from the one before it, where all pairs of a
code point and a place are counted through: first the places for one code point, then
the next code point.

A distance is written in digits to the base 36, the least first.  The digit that ends
it is below a threshold that follows the size of the distances so far.
-/

set_option autoImplicit false

namespace DashboardExport.Text.Punycode

/-! ## Numbers -/

/-- The digit of a value below 36. -/
def digitChar (value : Nat) : Char :=
  if value < 26 then Char.ofNat (97 + value) else Char.ofNat (22 + value)

/-- The value of a digit. -/
def digitValue? (c : Char) : Option Nat :=
  if c.isLower then some (c.toNat - 97)
  else if c.isDigit then some (c.toNat - 22)
  else none

/-- The threshold for the digit at a weight of the form 36, 72, and so on. -/
def threshold (bias weight : Nat) : Nat :=
  if weight ≤ bias then 1 else if bias + 26 ≤ weight then 26 else weight - bias

theorem threshold_pos (bias weight : Nat) : 0 < threshold bias weight := by
  unfold threshold
  split
  · decide
  · split <;> omega

/-- The digits of a number, from the given weight on. -/
def writeNumber (bias weight number : Nat) : List Char :=
  let least := threshold bias weight
  if number < least then [digitChar number]
  else
    digitChar (least + (number - least) % (36 - least)) ::
      writeNumber bias (weight + 36) ((number - least) / (36 - least))
termination_by number
decreasing_by
  have positive := threshold_pos bias weight
  have smaller := Nat.div_le_self (number - threshold bias weight) (36 - threshold bias weight)
  omega

/-- Reads a number off the front, each further digit counting `factor` times its value. -/
def readNumber? (bias : Nat) : Nat → Nat → List Char → Option (Nat × List Char)
  | _, _, [] => none
  | weight, factor, c :: rest => do
    let value ← digitValue? c
    let least := threshold bias weight
    if value < least then return (value * factor, rest)
    let (more, after) ← readNumber? bias (weight + 36) (factor * (36 - least)) rest
    return (value * factor + more, after)

/-- Reading a number uses up characters. -/
theorem length_lt_of_readNumber? {bias : Nat} {chars : List Char} :
    ∀ {weight factor : Nat} {result : Nat × List Char},
      readNumber? bias weight factor chars = some result → result.2.length < chars.length := by
  induction chars with
  | nil => intro _ _ _ read; simp [readNumber?] at read
  | cons c rest ih =>
    intro weight factor result read
    simp only [readNumber?, Option.bind_eq_bind] at read
    obtain ⟨value, _, read⟩ := Option.bind_eq_some_iff.1 read
    split at read
    · cases read
      simp
    · obtain ⟨further, readFurther, read⟩ := Option.bind_eq_some_iff.1 read
      cases read
      have := ih readFurther
      simp only [List.length_cons]
      omega

/-! ## Insertions -/

/-- The place among all pairs of a code point and a place that the next distance starts from. -/
structure Cursor where
  code : Nat
  place : Nat
  /-- The number of characters present. -/
  size : Nat
  bias : Nat
  /-- Whether nothing has been inserted yet. -/
  isFirst : Bool

namespace Cursor

/-- Before the first insertion into a text of ASCII characters. -/
def start (size : Nat) : Cursor :=
  { code := 128, place := 0, size, bias := 72, isFirst := true }

/-- The code point and the place at a distance. -/
def reach (cursor : Cursor) (distance : Nat) : Nat × Nat :=
  let total := cursor.place + distance
  (cursor.code + total / (cursor.size + 1), total % (cursor.size + 1))

/-- The distance of a code point and a place that do not come before the cursor. -/
def distance (cursor : Cursor) (code place : Nat) : Nat :=
  (code - cursor.code) * (cursor.size + 1) + place - cursor.place

/-- Divides by 35 until a number is at most 455; gives 36 for each time, with what is left. -/
def shrink (number : Nat) : Nat × Nat :=
  if 455 < number then
    let (steps, left) := shrink (number / 35)
    (steps + 36, left)
  else (0, number)
termination_by number
decreasing_by omega

/-- The cursor behind an insertion that was reached over a distance. -/
def after (cursor : Cursor) (distance code place : Nat) : Cursor :=
  let size := cursor.size + 1
  let damped := distance / (if cursor.isFirst then 700 else 2)
  let (steps, left) := shrink (damped + damped / size)
  { code, place := place + 1, size, bias := steps + 36 * left / (left + 38), isFirst := false }

end Cursor

/-! ## Writing -/

/-- Whether a character is written as it is. -/
def isBasic (c : Char) : Bool := c.toNat < 128

/-- Puts an insertion before those of code points that are not less. -/
def insertByCode (insertion : Nat × Nat) : List (Nat × Nat) → List (Nat × Nat)
  | [] => [insertion]
  | next :: rest =>
    if insertion.1 ≤ next.1 then insertion :: next :: rest
    else next :: insertByCode insertion rest

/-- The other characters in the order of their insertion, each with its place among the characters
that are present then. -/
def insertions (chars : List Char) : List (Nat × Nat) :=
  let others := chars.zipIdx.filter fun entry => !isBasic entry.1
  let placed := others.map fun entry =>
    (entry.1.toNat, (chars.take entry.2).countP fun c => c.toNat ≤ entry.1.toNat)
  placed.foldr insertByCode []

/-- The insertions after a cursor as distances. -/
def writeInsertions : Cursor → List (Nat × Nat) → List Char
  | _, [] => []
  | cursor, (code, place) :: rest =>
    let distance := cursor.distance code place
    writeNumber cursor.bias 36 distance ++
      writeInsertions (cursor.after distance code place) rest

/-- A text in ASCII characters. -/
def encode (chars : List Char) : List Char :=
  let basic := chars.filter isBasic
  (if basic.isEmpty then [] else basic ++ ['-']) ++
    writeInsertions (.start basic.length) (insertions chars)

/-! ## Reading -/

/-- The text after the insertions that are written after a cursor. -/
def readInsertions? (cursor : Cursor) (present chars : List Char) : Option (List Char) :=
  match chars with
  | [] => some present
  | c :: rest =>
    match _found : readNumber? cursor.bias 36 1 (c :: rest) with
    | none => none
    | some (distance, further) =>
      let (code, place) := cursor.reach distance
      if code.isValidChar then
        readInsertions? (cursor.after distance code place)
          (present.take place ++ Char.ofNat code :: present.drop place) further
      else none
termination_by chars.length
decreasing_by exact length_lt_of_readNumber? _found

/-- Reads a text that is written in lower-case ASCII characters. -/
def decode? (chars : List Char) : Option (List Char) :=
  let backwards := chars.reverse
  let written := (backwards.takeWhile (· != '-')).reverse
  let basic := ((backwards.dropWhile (· != '-')).drop 1).reverse
  readInsertions? (.start basic.length) basic written

end DashboardExport.Text.Punycode
