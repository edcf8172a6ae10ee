import DashboardExport.Text.Hex

/-!
# Lone surrogates

The codes from U+D800 to U+DFFF are no characters.  UTF-16 writes some characters with two
of them, and a JSON text can hold one alone.  A lone surrogate is kept as its stand-in, the
code point that lies `standInDistance` further on, in a plane without characters.  Where
such a code point itself is read it becomes the replacement character, so a stand-in in a
text is always a lone surrogate.

UTF-8 has no form for a lone surrogate.  A text that holds one cannot be encoded, and the
fault names the first of them (`unencodable?`).
-/

set_option autoImplicit false

namespace DashboardExport.Text

/-- The character shown for bytes that stand for none. -/
def replacement : Char := Char.ofNat 0xFFFD

/-- Whether a code is that of a surrogate. -/
def isSurrogate (code : Nat) : Bool := 0xD800 ≤ code && code ≤ 0xDFFF

/-- How far a stand-in is from its surrogate. -/
def standInDistance : Nat := 0xD0000

/-- The surrogate that a stand-in stands for. -/
def surrogateOf (c : Char) : Nat := c.toNat - standInDistance

/-- Whether a character stands for a lone surrogate. -/
def isStandIn (c : Char) : Bool := isSurrogate (surrogateOf c)

theorem isStandIn_of_lt {c : Char} (low : c.toNat < standInDistance) : isStandIn c = false := by
  have none : surrogateOf c = 0 := Nat.sub_eq_zero_of_le (Nat.le_of_lt low)
  rw [isStandIn, none]
  rfl

/-- The code as a character: a stand-in for a surrogate, and otherwise the character of that code
point. -/
def charOfCode (code : Nat) : Char :=
  if isSurrogate code then Char.ofNat (standInDistance + code)
  else if isSurrogate (code - standInDistance) then replacement
  else Char.ofNat code

/-- A character that is no stand-in is read as itself. -/
theorem charOfCode_toNat {c : Char} (own : isStandIn c = false) : charOfCode c.toNat = c := by
  have valid : c.toNat < 0xD800 ∨ (0xDFFF < c.toNat ∧ c.toNat < 0x110000) := c.valid
  have plain : isSurrogate c.toNat = false := by
    rw [isSurrogate, Bool.and_eq_false_iff]
    simp only [decide_eq_false_iff_not]
    omega
  have away : isSurrogate (c.toNat - standInDistance) = false := own
  rw [charOfCode, plain, away, if_neg Bool.false_ne_true, if_neg Bool.false_ne_true,
    Char.ofNat_toNat]

/-! ## Encoding -/

/-- Why a text cannot be encoded: the code of a surrogate, its place, and the place of the last one
of those that follow it without a gap. -/
structure Unencodable where
  code : Nat
  first : Nat
  last : Nat
  deriving DecidableEq

/-- The words for a text that cannot be encoded. -/
def Unencodable.message (fault : Unencodable) : String :=
  let place :=
    if fault.first = fault.last then
      " '\\u" ++ String.ofList (hexDigits 4 fault.code) ++ "' in position " ++
        toString fault.first
    else "s in position " ++ toString fault.first ++ "-" ++ toString fault.last
  "'utf-8' codec can't encode character" ++ place ++ ": surrogates not allowed"

/-- The fault at the first of the given stand-ins in a text. -/
def unencodable? (isBad : Char → Bool) (chars : List Char) : Option Unencodable :=
  let before := chars.takeWhile fun c => !isBad c
  match chars.dropWhile fun c => !isBad c with
  | [] => none
  | c :: rest =>
    some ⟨surrogateOf c, before.length, before.length + (rest.takeWhile isStandIn).length⟩

/-- Whether a stand-in has no form in the names of the system: a byte that belongs to no character
is kept in a name as one of the others. -/
def isUnnameable (c : Char) : Bool :=
  isStandIn c && !(0xDC80 ≤ surrogateOf c && surrogateOf c ≤ 0xDCFF)

theorem unencodable?_eq_none_iff {isBad : Char → Bool} {chars : List Char} :
    unencodable? isBad chars = none ↔ ∀ c ∈ chars, isBad c = false := by
  induction chars with
  | nil => simp [unencodable?]
  | cons c rest ih =>
    cases bad : isBad c with
    | true => simp [unencodable?, bad]
    | false =>
      have step : unencodable? isBad (c :: rest) = none ↔ unencodable? isBad rest = none := by
        simp only [unencodable?, List.dropWhile_cons, bad, Bool.not_false, if_true]
        cases rest.dropWhile fun c => !isBad c <;> simp
      rw [step, ih]
      simp [bad]

end DashboardExport.Text
