import InlineVariables.Options.Entry
import InlineVariables.Text.LetterCase
import InlineVariables.Text.Pieces

/-!
Environment variables as a source of options. The variables whose names begin with a given word and
a separator are selected; the separator cuts the rest of the name into a path.
-/

namespace InlineVariables

/-- Which environment variables are selected, and how their names are cut. -/
structure Environment where
  /-- The word that the names begin with. -/
  lead : String
  separator : String
  separator_ne : separator ≠ ""
  deriving DecidableEq

namespace Environment

/-- The reason why no separator may be empty. -/
def emptySeparator : String := "separator must not be empty"

def dataName : String := "data"

/-- A truth value for `true` and `false` in any case of letters, else the text itself. -/
def coerce (text : String) : Toml.Value :=
  if Text.sameUpToAsciiCase text "true" then .boolean true
  else if Text.sameUpToAsciiCase text "false" then .boolean false
  else .string text

/-- The path and the value of a variable, given the pieces of its name. Names of settings are put in
lower case and their values may be truth values; below the data part, keys and values stay as they
are. -/
def entryOf (first : String) (others : List String) (value : String) : Entry :=
  let first := Text.lowercase first
  if first = dataName then ⟨first :: others, .string value⟩
  else ⟨first :: others.map Text.lowercase, coerce value⟩

/-- The part of a name after the lead and the separator, unless nothing is left. -/
def tail? (env : Environment) (name : String) : Option (List Char) :=
  match Text.after? (env.lead.toList ++ env.separator.toList) name.toList with
  | some (c :: rest) => some (c :: rest)
  | _ => none

def entry? (env : Environment) (name value : String) : Option Entry :=
  (env.tail? name).map fun tail =>
    let (first, others) := Text.piecesOn env.separator.toList tail
    entryOf (String.ofList first) (others.map String.ofList) value

/-- The entries of all selected variables, in the order of the variables. -/
def entries (env : Environment) (settings : List (String × String)) : List Entry :=
  settings.filterMap fun (name, value) => env.entry? name value

end Environment

end InlineVariables
