import InlineVariables.Text.Printable

/-!
Text in quotes, as messages and descriptions show it. The escapes are `\0 \t \r \n \\ \"` and
`\u` with the code point in braces for every other character that is not printable.
-/

namespace InlineVariables.Text

/-- The lower-case hexadecimal digits of a code point, without leading zeros. -/
def hexDigits (n : Nat) : List Char :=
  Nat.toDigits 16 n

def quotedChar (c : Char) : List Char :=
  if c = '\x00' then ['\\', '0']
  else if c = '\t' then ['\\', 't']
  else if c = '\r' then ['\\', 'r']
  else if c = '\n' then ['\\', 'n']
  else if c = '\\' then ['\\', '\\']
  else if c = '"' then ['\\', '"']
  else if isPrintable c then [c]
  else ['\\', 'u', '{'] ++ hexDigits c.toNat ++ ['}']

def quoted (text : String) : String :=
  String.ofList ('"' :: text.toList.flatMap quotedChar ++ ['"'])

/-- Several texts, each in quotes, in brackets and separated by commas. -/
def quotedList (texts : List String) : String :=
  "[" ++ ", ".intercalate (texts.map quoted) ++ "]"

end InlineVariables.Text
