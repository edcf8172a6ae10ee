import DashboardExport.Binary64.Basic

/-!
# The shortest decimal of a double

A finite number is written with the fewest digits that still read back as the
number.  Reading rounds to the nearest number, so the decimals that read back are
those between the midpoints to the two neighbours, the midpoints included when the
significand is even.  On the grid of decimals with a given number of digits only
the two grid points next to the number can be nearest; the first grid with a hit
gives the digits, of two hits the nearer, of two equally near the even one.

How digits and position are laid out as text is a separate record, `Layout`.
-/

set_option autoImplicit false

namespace DashboardExport.Binary64

/-- A positive decimal: `0.d₁d₂…·10^point` with a first digit that is not zero. -/
structure Decimal where
  digits : List Char
  point : Int

/-- A positive number over a common denominator, with the midpoints to its neighbours. -/
structure Neighbourhood where
  below : Nat
  value : Nat
  above : Nat
  denominator : Nat
  /-- Whether the midpoints themselves read back as the number. -/
  closed : Bool

/-- The neighbourhood of a positive number; the spacing halves below a power of two. -/
def neighbourhood (significand : Nat) (exponent : Int) : Neighbourhood :=
  let scale := Nat.pow 2 (exponent - 2).toNat
  let gapBelow := if significand = leastFull ∧ leastExponent < exponent then 1 else 2
  { below := (4 * significand - gapBelow) * scale
    value := 4 * significand * scale
    above := (4 * significand + 2) * scale
    denominator := Nat.pow 2 (2 - exponent).toNat
    closed := significand % 2 == 0 }

/-- The number of decimal places that bring a positive quotient below one to at least one tenth,
counted upward from `places`. -/
def leadingZeros (num den : Nat) : Nat → Nat → Nat
  | 0, places => places
  | fuel + 1, places =>
    if den ≤ num * Nat.pow 10 (places + 1) then places else leadingZeros num den fuel (places + 1)

/-- The position of the decimal point: the quotient lies from `10^(point-1)` up to `10^point`. -/
def decimalPoint (num den : Nat) : Int :=
  if den ≤ num then ((Nat.toDigits 10 (num / den)).length : Int)
  else -(leadingZeros num den 400 0 : Int)

/-- Whether the grid point `candidate·10^(point-count)` reads back as the number. -/
def Neighbourhood.holds (n : Neighbourhood) (up down candidate : Nat) : Bool :=
  let here := candidate * n.denominator * down
  if n.closed then n.below * up ≤ here && here ≤ n.above * up
  else n.below * up < here && here < n.above * up

/-- The nearest grid point with `count` digits that reads back as the number, if there is one. -/
def Neighbourhood.onGrid? (n : Neighbourhood) (point : Int) (count : Nat) : Option Nat :=
  let up := Nat.pow 10 ((count : Int) - point).toNat
  let down := Nat.pow 10 (point - (count : Int)).toNat
  let low := n.value * up / (n.denominator * down)
  match n.holds up down low, n.holds up down (low + 1) with
  | true, false => some low
  | false, true => some (low + 1)
  | true, true => some (roundHalfEven (n.value * up) (n.denominator * down))
  | false, false => none

/-- The first of the grids with `count`, `count + 1`, … digits that has a hit. -/
def Neighbourhood.firstGrid (n : Neighbourhood) (point : Int) : Nat → Nat → Nat × Nat
  | 0, count => (0, count)
  | fuel + 1, count =>
    match n.onGrid? point count with
    | some hit => (hit, count)
    | none => n.firstGrid point fuel (count + 1)

/-- The shortest decimal of a positive number. -/
def shortest (significand : Nat) (exponent : Int) : Decimal :=
  let n := neighbourhood significand exponent
  let point := decimalPoint n.value n.denominator
  let (hit, count) := n.firstGrid point 17 1
  let digits := Nat.toDigits 10 hit
  { digits := (digits.reverse.dropWhile (· == '0')).reverse
    point := point - (count : Int) + (digits.length : Int) }

/-! ## Layout -/

/-- How a number is laid out: which decimal exponents are written positionally, how many digits an
exponent has at least, and the words for the numbers that are not finite. -/
structure Layout where
  leastPositional : Int
  belowPositional : Int
  exponentDigits : Nat
  infinity : String
  notANumber : String

/-- Digits padded with zeros on the left to at least `width`. -/
def padded (width : Nat) (digits : List Char) : List Char :=
  List.replicate (width - digits.length) '0' ++ digits

/-- Positional notation; an integer keeps one zero after the point. -/
def positional (d : Decimal) : List Char :=
  if d.point ≤ 0 then
    '0' :: '.' :: (List.replicate (-d.point).toNat '0' ++ d.digits)
  else if d.digits.length ≤ d.point.toNat then
    d.digits ++ List.replicate (d.point.toNat - d.digits.length) '0' ++ ['.', '0']
  else d.digits.take d.point.toNat ++ '.' :: d.digits.drop d.point.toNat

/-- One digit, the others after a point, and a signed exponent. -/
def scientific (layout : Layout) (d : Decimal) : List Char :=
  let exponent := d.point - 1
  let fraction := match d.digits.drop 1 with
    | [] => []
    | digits => '.' :: digits
  d.digits.take 1 ++ fraction ++ 'e' :: (if exponent < 0 then '-' else '+') ::
    padded layout.exponentDigits (Nat.toDigits 10 exponent.natAbs)

/-- The text of a number in a layout. -/
def render (layout : Layout) : Binary64 → String
  | .nan => layout.notANumber
  | .infinite negative => (if negative then "-" else "") ++ layout.infinity
  | .finite negative significand exponent _ =>
    let magnitude :=
      if significand = 0 then ['0', '.', '0']
      else
        let d := shortest significand exponent
        if layout.leastPositional ≤ d.point - 1 && d.point - 1 < layout.belowPositional then
          positional d
        else scientific layout d
    String.ofList (if negative then '-' :: magnitude else magnitude)

/-- The layout of numbers in messages: positional from `0.0001` up to sixteen digits. -/
def messageLayout : Layout where
  leastPositional := -4
  belowPositional := 16
  exponentDigits := 2
  infinity := "inf"
  notANumber := "nan"

end DashboardExport.Binary64
