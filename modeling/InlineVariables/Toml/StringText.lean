import InlineVariables.Text.Digits

/-!
The written forms of strings. A string takes the first of five forms that can hold it: basic,
literal, multi-line basic, multi-line literal, and basic with escapes.
-/

namespace InlineVariables.Toml.StringText

/-- Control characters that only an escape can write; tab and newline are not among them. -/
def isControl (c : Char) : Bool :=
  (c.toNat < 0x20 || c.toNat == 0x7F) && c != '\t' && c != '\n'

/-- The length of the longest run of `c`, where a run of `current` ends just before the text. -/
def longestRunFrom (c : Char) (current : Nat) : List Char → Nat
  | [] => current
  | d :: rest =>
    if d = c then longestRunFrom c (current + 1) rest
    else max current (longestRunFrom c 0 rest)

def longestRun (c : Char) (text : List Char) : Nat :=
  longestRunFrom c 0 text

inductive Form where
  | basic | literal | multilineBasic | multilineLiteral
  deriving DecidableEq, Repr

def isPlain (text : List Char) : Bool :=
  text.all fun c => !isControl c

/-- A string on one line that a basic form holds without escapes other than for tabs. -/
def fitsBasic (text : List Char) : Bool :=
  isPlain text && text.all fun c => c != '\\' && c != '"' && c != '\n'

/-- A string that a literal form holds. -/
def fitsLiteral (text : List Char) : Bool :=
  isPlain text && text.all fun c => c != '\'' && c != '\n'

/-- A string that a multi-line basic form holds without escapes other than for tabs. -/
def fitsMultilineBasic (text : List Char) : Bool :=
  isPlain text && text.all (· != '\\') && longestRun '"' text ≤ 2

/-- A string that a multi-line literal form holds. -/
def fitsMultilineLiteral (text : List Char) : Bool :=
  isPlain text && longestRun '\'' text ≤ 2

/-- The first form that holds the string. A basic form can hold any string by escapes. -/
def formOf (text : List Char) : Form :=
  if fitsBasic text then .basic
  else if fitsLiteral text then .literal
  else if fitsMultilineBasic text then .multilineBasic
  else if fitsMultilineLiteral text then .multilineLiteral
  else if text.contains '\n' then .multilineBasic
  else .basic

/-- Four upper-case hexadecimal digits. -/
def fourHexDigits (n : Nat) : List Char :=
  [n / 4096 % 16, n / 256 % 16, n / 16 % 16, n % 16].map fun d => (Nat.digitChar d).toUpper

/-- The escape of a character, nothing for one that stands for itself. Quotes are not escaped
here. -/
def escape? (multiline : Bool) (c : Char) : Option (List Char) :=
  if c = '\x08' then some ['\\', 'b']
  else if c = '\t' then some ['\\', 't']
  else if c = '\n' then (if multiline then none else some ['\\', 'n'])
  else if c = '\x0c' then some ['\\', 'f']
  else if c = '\r' then some ['\\', 'r']
  else if c = '\\' then some ['\\', '\\']
  else if isControl c then some ('\\' :: 'u' :: fourHexDigits c.toNat)
  else none

/-- The inside of a basic form, after `run` quotes that stand for themselves. On one line every quote
is escaped, on several the third in a row. -/
def basicBody (multiline : Bool) (run : Nat) : List Char → List Char
  | [] => []
  | c :: rest =>
    if c = '"' then
      if run < (if multiline then 2 else 0) then '"' :: basicBody multiline (run + 1) rest
      else '\\' :: '"' :: basicBody multiline 0 rest
    else match escape? multiline c with
      | some escaped => escaped ++ basicBody multiline 0 rest
      | none => c :: basicBody multiline 0 rest

/-- The newline after the opening of a multi-line form, which only a string with a newline has. -/
def openingNewline (text : List Char) : List Char :=
  if text.contains '\n' then ['\n'] else []

def writeAs (text : List Char) : Form → List Char
  | .basic => '"' :: basicBody false 0 text ++ ['"']
  | .literal => '\'' :: text ++ ['\'']
  | .multilineBasic =>
    ['"', '"', '"'] ++ openingNewline text ++ basicBody true 0 text ++ ['"', '"', '"']
  | .multilineLiteral =>
    ['\'', '\'', '\''] ++ openingNewline text ++ text ++ ['\'', '\'', '\'']

def write (text : List Char) : List Char :=
  writeAs text (formOf text)

/-- Letters, digits, `_` and `-` make up a key without quotes. -/
def isBareKeyChar (c : Char) : Bool :=
  c.isAlphanum || c == '_' || c == '-'

/-- The written form of a key: bare, else basic, literal, or basic with escapes. -/
def writeKey (key : List Char) : List Char :=
  if key ≠ [] && key.all isBareKeyChar then key
  else if fitsBasic key then writeAs key .basic
  else if fitsLiteral key then writeAs key .literal
  else writeAs key .basic

end InlineVariables.Toml.StringText
