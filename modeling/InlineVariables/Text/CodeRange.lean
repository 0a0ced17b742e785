/-!
Sets of characters given as ranges of code points.
-/

namespace InlineVariables.Text

/-- The first and the last code point of a range. -/
abbrev CodeRange := Nat × Nat

/-- Whether a character lies in one of the ranges, which are in ascending order. -/
def inRanges : List CodeRange → Char → Bool
  | [], _ => false
  | (first, last) :: rest, c =>
    if c.toNat < first then false else if c.toNat ≤ last then true else inRanges rest c

end InlineVariables.Text
