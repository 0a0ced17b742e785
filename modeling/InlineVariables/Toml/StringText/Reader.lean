import InlineVariables.Text.Digits
import InlineVariables.Toml.Trivia

/-!
Reading of strings in their four forms. Every reader gives what it read and the text after it, which
is shorter than the text it was given.
-/

namespace InlineVariables.Toml.StringText

open Text (digitsValueIn)

def isHexDigit (c : Char) : Bool :=
  c.isDigit || ('a' ≤ c && c ≤ 'f') || ('A' ≤ c && c ≤ 'F')

/-- The character whose code point is given in exactly `width` hexadecimal digits. -/
def readCodePoint (width : Nat) (text : List Char) : Option (Char × List Char) :=
  let digits := text.take width
  let code := digitsValueIn 16 digits
  if digits.length = width ∧ digits.all isHexDigit ∧ code.isValidChar then
    some (Char.ofNat code, text.drop width)
  else none

/-- The character of an escape, read after its backslash. -/
def readEscape : List Char → Option (Char × List Char)
  | [] => none
  | c :: rest =>
    if c = 'b' then some ('\x08', rest)
    else if c = 't' then some ('\t', rest)
    else if c = 'n' then some ('\n', rest)
    else if c = 'f' then some ('\x0c', rest)
    else if c = 'r' then some ('\r', rest)
    else if c = '"' then some ('"', rest)
    else if c = '\\' then some ('\\', rest)
    else if c = 'u' then readCodePoint 4 rest
    else if c = 'U' then readCodePoint 8 rest
    else none

theorem readCodePoint_length_le {width : Nat} {text rest : List Char} {c : Char}
    (found : readCodePoint width text = some (c, rest)) : rest.length ≤ text.length := by
  unfold readCodePoint at found
  simp only at found
  split at found
  · cases found; simp
  · cases found

theorem readEscape_length_lt {text rest : List Char} {c : Char}
    (found : readEscape text = some (c, rest)) : rest.length < text.length := by
  unfold readEscape at found
  split at found
  · cases found
  · rename_i d tail
    have code : ∀ width, readCodePoint width tail = some (c, rest) →
        rest.length < (d :: tail).length := fun _ h =>
      Nat.lt_succ_of_le (readCodePoint_length_le h)
    repeat' split at found
    all_goals first
      | exact code _ found
      | (cases found <;> simp)

/-- Puts a character in front of what a reader read. -/
def consRead (c : Char) : Option (List Char × List Char) → Option (List Char × List Char)
  | some (read, rest) => some (c :: read, rest)
  | none => none

/-- The inside of a basic string, up to and with its closing quote. -/
def readBasic (text : List Char) : Option (List Char × List Char) :=
  match text with
  | [] => none
  | c :: rest =>
    if c = '"' then some ([], rest)
    else if c = '\\' then
      match found : readEscape rest with
      | some (d, after) =>
        have := readEscape_length_lt found
        consRead d (readBasic after)
      | none => none
    else if isLineChar c then consRead c (readBasic rest)
    else none
termination_by text.length
decreasing_by all_goals (simp <;> omega)

/-- The inside of a literal string, up to and with its closing quote. -/
def readLiteral : List Char → Option (List Char × List Char)
  | [] => none
  | c :: rest =>
    if c = '\'' then some ([], rest)
    else if isLineChar c then consRead c (readLiteral rest)
    else none

/-- The end of a multi-line string at its first three quotes: up to two quotes before the last three
belong to the string. Given is the text after the first three. -/
def readClosing (quote : Char) : List Char → List Char × List Char
  | c :: d :: rest =>
    if c = quote then
      if d = quote then ([quote, quote], rest) else ([quote], d :: rest)
    else ([], c :: d :: rest)
  | [c] => if c = quote then ([quote], []) else ([], [c])
  | [] => ([], [])

/-- The text after three quotes, when it begins with them. -/
def threeQuotes? (quote : Char) : List Char → Option (List Char)
  | a :: b :: c :: rest => if a = quote ∧ b = quote ∧ c = quote then some rest else none
  | _ => none

/-- The text after an escaped end of line, read after the backslash: the blank lines that follow and
the blanks before the next character are dropped. -/
def continuation? (text : List Char) : Option (List Char) :=
  (newline? (dropBlanks text)).map dropBlankLines

theorem continuation?_length_lt {text rest : List Char} (found : continuation? text = some rest) :
    rest.length < text.length := by
  unfold continuation? at found
  obtain ⟨after, isNewline, rfl⟩ := Option.map_eq_some_iff.1 found
  have := newline?_length_lt isNewline
  have := dropBlanks_length_le text
  have := dropBlankLines_length_le after
  omega

/-- The inside of a multi-line basic string, up to and with its closing quotes. -/
def readMultilineBasic (text : List Char) : Option (List Char × List Char) :=
  match threeQuotes? '"' text with
  | some after => some (readClosing '"' after)
  | none =>
    match text with
    | [] => none
    | c :: rest =>
      if c = '\\' then
        match continued : continuation? rest with
        | some after =>
          have := continuation?_length_lt continued
          readMultilineBasic after
        | none =>
          match found : readEscape rest with
          | some (d, after) =>
            have := readEscape_length_lt found
            consRead d (readMultilineBasic after)
          | none => none
      else
        match ended : newline? (c :: rest) with
        | some after =>
          have := newline?_length_lt ended
          consRead '\n' (readMultilineBasic after)
        | none => if isLineChar c then consRead c (readMultilineBasic rest) else none
termination_by text.length
decreasing_by all_goals (simp_all <;> omega)

/-- The inside of a multi-line literal string, up to and with its closing quotes. -/
def readMultilineLiteral (text : List Char) : Option (List Char × List Char) :=
  match threeQuotes? '\'' text with
  | some after => some (readClosing '\'' after)
  | none =>
    match text with
    | [] => none
    | c :: rest =>
      match ended : newline? (c :: rest) with
      | some after =>
        have := newline?_length_lt ended
        consRead '\n' (readMultilineLiteral after)
      | none => if isLineChar c then consRead c (readMultilineLiteral rest) else none
termination_by text.length
decreasing_by all_goals simp_all

/-- The text without one end of line at its beginning. -/
def dropNewline (text : List Char) : List Char :=
  (newline? text).getD text

/-- Reads a string in any of its forms. -/
def read (text : List Char) : Option (List Char × List Char) :=
  match threeQuotes? '"' text with
  | some after => readMultilineBasic (dropNewline after)
  | none =>
    match threeQuotes? '\'' text with
    | some after => readMultilineLiteral (dropNewline after)
    | none =>
      match text with
      | [] => none
      | c :: rest =>
        if c = '"' then readBasic rest
        else if c = '\'' then readLiteral rest
        else none

end InlineVariables.Toml.StringText
