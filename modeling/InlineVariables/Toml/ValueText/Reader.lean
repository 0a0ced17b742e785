import InlineVariables.Toml.Number
import InlineVariables.Toml.OpenTable

/-!
Reading of values. A reader of nested values has room for one level less than the value around
them.
-/

namespace InlineVariables.Toml

/-- Reads something at the beginning of a text and gives the text after it. -/
abbrev Reader (α : Type) := List Char → Option (α × List Char)

/-- Reads the items of an array up to and with the closing bracket. A comma may follow the last. -/
def readItems (item : Reader Value) (text : List Char) : Option (List Value × List Char) :=
  match dropTrivia? false text with
  | none => none
  | some (']' :: rest) => some ([], rest)
  | some start =>
    match item start with
    | none => none
    | some (value, after) =>
      match dropTrivia? false after with
      | some (']' :: rest) => some ([value], rest)
      | some (',' :: rest) =>
        if rest.length < text.length then
          (readItems item rest).map fun (values, after) => (value :: values, after)
        else none
      | _ => none
termination_by text.length

/-- Reads a key, an equals sign and a value, with the blanks between and after them. -/
def readEntry (item : Reader Value) : Reader (KeyPath × Value) := fun text =>
  match readKeyPath text with
  | some (path, '=' :: rest) =>
    (item (dropBlanks rest)).map fun (value, after) => ((path, value), dropBlanks after)
  | _ => none

/-- Reads the entries of an inline table, at least one, up to and with the closing brace. -/
def readEntries (item : Reader Value) (text : List Char) :
    Option (List (KeyPath × Value) × List Char) :=
  match readEntry item text with
  | some (entry, '}' :: rest) => some ([entry], rest)
  | some (entry, ',' :: rest) =>
    if rest.length < text.length then
      (readEntries item rest).map fun (entries, after) => (entry :: entries, after)
    else none
  | _ => none
termination_by text.length

def readInlineTable (item : Reader Value) (text : List Char) : Option (Value × List Char) :=
  match dropBlanks text with
  | '}' :: rest => some (.table [], rest)
  | _ =>
    match readEntries item text with
    | none => none
    | some (entries, rest) =>
      (OpenTable.addEntries [] entries).map fun t => (.table (OpenTable.close t), rest)

def readNumber (text : List Char) : Option (Value × List Char) :=
  match readDatetime text with
  | some (d, rest) => some (.datetime d, rest)
  | none =>
    match readFloat text with
    | some (x, rest) => some (.float x, rest)
    | none => (readInteger text).map fun (n, rest) => (.integer n, rest)

def readBoolean (text : List Char) : Option (Value × List Char) :=
  match Text.after? ['t', 'r', 'u', 'e'] text with
  | some rest => some (.boolean true, rest)
  | none =>
    (Text.after? ['f', 'a', 'l', 's', 'e'] text).map fun rest => (.boolean false, rest)

/-- Reads a value, given how the values inside it are read, if there may be any. -/
def readValueWith (inner? : Option (Reader Value)) : Reader Value := fun text =>
  match text with
  | [] => none
  | c :: rest =>
    if c = '"' ∨ c = '\'' then
      (StringText.read text).map fun (s, after) => (.string (String.ofList s), after)
    else if c = '[' then
      match inner? with
      | some inner => (readItems inner rest).map fun (values, after) => (.array values, after)
      | none => none
    else if c = '{' then
      match inner? with
      | some inner => readInlineTable inner rest
      | none => none
    else
      match readBoolean text with
      | some found => some found
      | none => readNumber text

/-- Reads a value with room for this many levels of arrays and inline tables. -/
def readNested : Nat → Reader Value
  | 0 => readValueWith none
  | room + 1 => readValueWith (some (readNested room))

/-- Reads a value that nests less deeply than the depth limit. -/
def readValue : Reader Value :=
  readNested (depthLimit - 1)

end InlineVariables.Toml
