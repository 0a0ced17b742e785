import InlineVariables.Binary64.Basic

/-!
The decimal of a binary number with the fewest digits that rounds back to it and, of those, the
nearest to it; of two that are equally near, the greater. It is looked for on the grid of one
significant digit, then of two, and so on.
-/

namespace InlineVariables.Binary64

/-- A decimal: `digits * 10 ^ exponent`. -/
structure Decimal where
  digits : Nat
  exponent : Int
  deriving DecidableEq, Repr

/-- The numbers that round to a given one lie between two bounds. All three are counted in units of
a quarter of the last place. -/
structure RoundingRange where
  lower : Nat
  value : Nat
  upper : Nat
  /-- Whether the bounds themselves round to the value. -/
  closed : Bool

/-- The numbers that round to this significand and exponent. Below a power of two the numbers lie
twice as close. -/
def roundingRange (significand : Nat) (exponent : Int) : RoundingRange where
  lower :=
    if significand = Nat.pow 2 (precision - 1) ∧ minExponent < exponent then 4 * significand - 1
    else 4 * significand - 2
  value := 4 * significand
  upper := 4 * significand + 2
  closed := significand % 2 == 0

/-- Whether the candidate `n / d`, in the units of the range, rounds to its value. -/
def RoundingRange.holds (range : RoundingRange) (n d : Nat) : Bool :=
  if range.closed then range.lower * d ≤ n && n ≤ range.upper * d
  else range.lower * d < n && n < range.upper * d

/-- The greatest `e` with `10 ^ e ≤ num / den`, for positive arguments. -/
def floorLog10 (num den : Nat) : Int :=
  let guess := Int.fdiv (((num.log2 : Int) - den.log2) * 30103) 100000
  let fits (e : Int) : Bool :=
    let (n, d) := divPow num den 10 e
    d ≤ n
  if fits (guess + 1) then guess + 1 else if fits guess then guess else guess - 1

/-- The decimal of the grid `10 ^ scale` that lies in the range, the nearer one if both neighbours of
the value do; a tie goes to the greater. The unit of the range is `num / den`. -/
def nearestOnGrid? (range : RoundingRange) (num den : Nat) (scale : Int) : Option Nat :=
  let (unit, grid) := divPow num den 10 scale
  let below := range.value * unit / grid
  let above := below + 1
  let fitsBelow := range.holds (below * grid) unit
  let fitsAbove := range.holds (above * grid) unit
  if fitsBelow && fitsAbove then
    some (if range.value * unit - below * grid < above * grid - range.value * unit then below else above)
  else if fitsBelow then some below
  else if fitsAbove then some above
  else none

/-- The first grid with a hit, with this many grids left to try and `count` digits on this one. -/
def searchGrids (range : RoundingRange) (num den : Nat) (magnitude : Int) : Nat → Nat → Decimal
  | 0, count =>
    let scale := magnitude - count + 1
    let (unit, grid) := divPow num den 10 scale
    ⟨divHalfEven (range.value * unit) grid, scale⟩
  | left + 1, count =>
    let scale := magnitude - count + 1
    match nearestOnGrid? range num den scale with
    | some digits => if digits = Nat.pow 10 count then ⟨1, scale + count⟩ else ⟨digits, scale⟩
    | none => searchGrids range num den magnitude left (count + 1)

/-- The shortest decimal of a positive significand and an exponent. Seventeen digits always
suffice. -/
def shortestDecimal (significand : Nat) (exponent : Int) : Decimal :=
  let range := roundingRange significand exponent
  let (den, num) := divPow 1 1 2 (exponent - 2)
  searchGrids range num den (floorLog10 (range.value * num) den) 17 1

end InlineVariables.Binary64
