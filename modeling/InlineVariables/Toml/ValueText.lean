import InlineVariables.Binary64.Written
import InlineVariables.Toml.StringText
import InlineVariables.Toml.Value

/-!
The written form of values on one line, and the text of a value that stands alone. A datetime alone
is exchanged as a table of one entry under a reserved key.
-/

namespace InlineVariables.Toml

/-- The key of the entry that a datetime is exchanged as. -/
def datetimeMarker : String :=
  "$__toml_private_datetime"

namespace Value

mutual

/-- The form of a value inside an array or a table. -/
def write : Value → List Char
  | .string text => StringText.write text.toList
  | .integer n => Text.signedDigits n
  | .float x => x.written.toList
  | .boolean b => (if b then "true" else "false").toList
  | .datetime d => d.text
  | .array items => '[' :: writeItems items ++ [']']
  | .table [] => ['{', '}']
  | .table (entry :: entries) => ['{', ' '] ++ writeEntries (entry :: entries) ++ [' ', '}']

def writeItems : List Value → List Char
  | [] => []
  | [item] => item.write
  | item :: next :: items => item.write ++ ',' :: ' ' :: writeItems (next :: items)

def writeEntries : List (String × Value) → List Char
  | [] => []
  | [(key, value)] => StringText.writeKey key.toList ++ [' ', '=', ' '] ++ value.write
  | (key, value) :: next :: entries =>
    StringText.writeKey key.toList ++ [' ', '=', ' '] ++ value.write ++
      ',' :: ' ' :: writeEntries (next :: entries)

end

def display : Value → String
  | .datetime d => String.ofList (write (.table [(datetimeMarker, .string d.written)]))
  | value => String.ofList value.write

end Value

end InlineVariables.Toml
