import InlineVariables.Binary64.Written
import InlineVariables.Text.Pieces
import InlineVariables.Toml.StringText.Reader

/-!
Reading of integers and floating-point numbers.
-/

namespace InlineVariables.Toml

open Text (digitsValueIn digitsValue splitSign after?)

/-- Whether an integer fits into 64 bits with a sign. -/
def isInt64 (n : Int) : Bool :=
  -9223372036854775808 ≤ n && n ≤ 9223372036854775807

/-- Digits with single underscores between them; the underscores are dropped. The text begins just
after a digit. -/
def readMoreDigits (isDigit : Char → Bool) : List Char → Option (List Char × List Char)
  | [] => some ([], [])
  | ['_'] => none
  | c :: d :: rest =>
    if c = '_' then
      if isDigit d then StringText.consRead d (readMoreDigits isDigit rest) else none
    else if isDigit c then StringText.consRead c (readMoreDigits isDigit (d :: rest))
    else some ([], c :: d :: rest)
  | [c] => if isDigit c then some ([c], []) else some ([], [c])

/-- At least one digit, with underscores between digits. -/
def readDigitGroup (isDigit : Char → Bool) : List Char → Option (List Char × List Char)
  | [] => none
  | c :: rest =>
    if isDigit c then StringText.consRead c (readMoreDigits isDigit rest) else none

/-- The digits before the point: a zero on its own, or digits that do not begin with zero. -/
def readWhole : List Char → Option (List Char × List Char)
  | '0' :: rest => some (['0'], rest)
  | text => readDigitGroup Char.isDigit text

def readExponent : List Char → Option (Int × List Char)
  | [] => none
  | c :: rest =>
    if c = 'e' ∨ c = 'E' then
      let (negative, body) := splitSign rest
      (readDigitGroup Char.isDigit body).map fun (digits, after) =>
        (if negative then -(digitsValue digits : Int) else digitsValue digits, after)
    else none

/-- What follows the digits before the point: a fraction, an exponent, or both. -/
def readFractionExponent (text : List Char) : Option ((List Char × Int) × List Char) :=
  match text with
  | '.' :: rest =>
    match readDigitGroup Char.isDigit rest with
    | none => none
    | some (fraction, after) =>
      match after with
      | [] => some ((fraction, 0), [])
      | c :: _ =>
        if c = 'e' ∨ c = 'E' then
          (readExponent after).map fun (exponent, after) => ((fraction, exponent), after)
        else some ((fraction, 0), after)
  | _ => (readExponent text).map fun (exponent, after) => (([], exponent), after)

/-- Reads a floating-point number. One that is too great is refused. -/
def readFloat (text : List Char) : Option (Binary64 × List Char) :=
  let (negative, body) := splitSign text
  match after? ['i', 'n', 'f'] body with
  | some rest => some (.infinity negative, rest)
  | none =>
    match after? ['n', 'a', 'n'] body with
    | some rest => some (.nan, rest)
    | none =>
      match readWhole body with
      | none => none
      | some (whole, rest) =>
        match readFractionExponent rest with
        | none => none
        | some ((fraction, exponent), rest) =>
          let x := Binary64.ofDecimal negative (digitsValue (whole ++ fraction))
            (exponent - fraction.length)
          if x = .infinity false then none else some (x, rest)

/-- An integer in a base other than ten, after its prefix. -/
def readBased (base : Nat) (isDigit : Char → Bool) (text : List Char) :
    Option (Int × List Char) :=
  (readDigitGroup isDigit text).map fun (digits, rest) => ((digitsValueIn base digits : Nat), rest)

def readInteger (text : List Char) : Option (Int × List Char) :=
  let found :=
    match text with
    | '0' :: 'x' :: rest => readBased 16 StringText.isHexDigit rest
    | '0' :: 'o' :: rest => readBased 8 (fun c => '0' ≤ c && c ≤ '7') rest
    | '0' :: 'b' :: rest => readBased 2 (fun c => c == '0' || c == '1') rest
    | _ =>
      let (negative, body) := splitSign text
      (readWhole body).map fun (digits, rest) =>
        (if negative then -(digitsValue digits : Int) else digitsValue digits, rest)
  match found with
  | some (n, rest) => if isInt64 n then some (n, rest) else none
  | none => none

end InlineVariables.Toml
