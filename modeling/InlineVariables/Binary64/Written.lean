import InlineVariables.Binary64.Shortest
import InlineVariables.Text.Digits

/-!
The decimal text of binary numbers. Numbers are written with the fewest digits that read back, in
positions and never with an exponent, and always with a point.
-/

namespace InlineVariables.Binary64

open Text (decimalDigits digitsValue splitSign)

/-- The digits in their positions around the point. -/
def Decimal.positional (d : Decimal) : List Char :=
  let digits := decimalDigits d.digits
  if 0 ≤ d.exponent then digits ++ List.replicate d.exponent.toNat '0' ++ ['.', '0']
  else
    let places := (-d.exponent).toNat
    if places < digits.length then
      digits.take (digits.length - places) ++ '.' :: digits.drop (digits.length - places)
    else ['0', '.'] ++ List.replicate (places - digits.length) '0' ++ digits

def signText (negative : Bool) : List Char :=
  if negative then ['-'] else []

/-- The text of a number, with a spelling for what is not a number. -/
def writeWith (nanText : String) : Binary64 → String
  | .nan => nanText
  | .infinity negative => String.ofList (signText negative ++ ['i', 'n', 'f'])
  | .finite negative significand exponent =>
    let body :=
      if significand = 0 then ['0', '.', '0']
      else (shortestDecimal significand exponent).positional
    String.ofList (signText negative ++ body)

/-- The text of a number in a document. -/
def written (x : Binary64) : String :=
  writeWith "nan" x

/-- The text of a number in a message. -/
def shown (x : Binary64) : String :=
  writeWith "NaN" x

/-- The exponent after a mantissa: nothing, or `e`, an optional sign and digits to the end. -/
def exponent? : List Char → Option Int
  | [] => some 0
  | c :: rest =>
    let (negative, digits) := splitSign rest
    if (c == 'e' || c == 'E') && digits ≠ [] && digits.all Char.isDigit then
      some (if negative then -(digitsValue digits : Int) else digitsValue digits)
    else none

/-- Reads a number: a sign, then `inf`, `infinity` or `nan` in any case, or decimal digits with an
optional point and exponent. -/
def ofText? (text : String) : Option Binary64 :=
  let (negative, body) := splitSign text.toList
  let word := body.map Char.toLower
  if word = ['n', 'a', 'n'] then some .nan
  else if word = ['i', 'n', 'f'] || word = ['i', 'n', 'f', 'i', 'n', 'i', 't', 'y'] then
    some (.infinity negative)
  else
    let whole := body.takeWhile Char.isDigit
    let afterWhole := body.dropWhile Char.isDigit
    let (fraction, rest) :=
      match afterWhole with
      | '.' :: tail => (tail.takeWhile Char.isDigit, tail.dropWhile Char.isDigit)
      | _ => ([], afterWhole)
    if whole = [] && fraction = [] then none
    else
      (exponent? rest).map fun exponent =>
        ofDecimal negative (digitsValue (whole ++ fraction)) (exponent - fraction.length)

end InlineVariables.Binary64
