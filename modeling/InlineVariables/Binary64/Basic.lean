/-!
Binary floating-point numbers with 53 significant bits, and rounding of exact quotients and decimals
to them. All arithmetic is on natural numbers.
-/

namespace InlineVariables

/-- A number of the 64-bit format. A finite one is its significand times two to its exponent; the
significand has 53 bits unless the exponent is the least one. -/
inductive Binary64 where
  | nan
  | infinity (negative : Bool)
  | finite (negative : Bool) (significand : Nat) (exponent : Int)
  deriving DecidableEq, Repr, Inhabited

namespace Binary64

/-- The exponent of the numbers nearest to zero. -/
def minExponent : Int := -1074

/-- The exponent of the greatest finite numbers. -/
def maxExponent : Int := 971

/-- The bits of a significand that is not near zero. -/
def precision : Nat := 53

def zero (negative : Bool) : Binary64 :=
  .finite negative 0 minExponent

/-- The quotient rounded to the nearest integer, a half to the even one. -/
def divHalfEven (num den : Nat) : Nat :=
  let quotient := num / den
  let rest := num % den
  if den < 2 * rest || (2 * rest == den && quotient % 2 == 1) then quotient + 1 else quotient

/-- Numerator and denominator of `num / den` divided by `base ^ exponent`. -/
def divPow (num den base : Nat) (exponent : Int) : Nat × Nat :=
  if 0 ≤ exponent then (num, den * base.pow exponent.toNat)
  else (num * base.pow (-exponent).toNat, den)

/-- The greatest `e` with `2 ^ e ≤ num / den`, for positive arguments. -/
def floorLog2 (num den : Nat) : Int :=
  let guess : Int := (num.log2 : Int) - den.log2
  let (n, d) := divPow num den 2 guess
  if d ≤ n then guess else guess - 1

/-- The number nearest to `num / den`, a tie to the even significand. -/
def ofQuotient (negative : Bool) (num den : Nat) : Binary64 :=
  if num = 0 then zero negative
  else
    let exponent := max minExponent (floorLog2 num den - (precision - 1))
    let (n, d) := divPow num den 2 exponent
    let significand := divHalfEven n d
    let (significand, exponent) :=
      if significand = Nat.pow 2 precision then (Nat.pow 2 (precision - 1), exponent + 1)
      else (significand, exponent)
    if maxExponent < exponent then .infinity negative
    else .finite negative significand exponent

/-- The number nearest to `digits * 10 ^ exponent`. Decimals far out of range are settled by their
order of magnitude. -/
def ofDecimal (negative : Bool) (digits : Nat) (exponent : Int) : Binary64 :=
  if digits = 0 then zero negative
  else
    let magnitude : Int := (Nat.toDigits 10 digits).length + exponent
    if 400 < magnitude then .infinity negative
    else if magnitude < -400 then zero negative
    else
      let (n, d) := divPow digits 1 10 (-exponent)
      ofQuotient negative n d

end Binary64

end InlineVariables
