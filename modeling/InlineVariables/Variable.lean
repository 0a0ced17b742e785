import InlineVariables.ReferenceError
import InlineVariables.Toml.ValueText

/-!
Variables and how values of the data table are classified as such. Main statement:
`Variable.ofValue_eq_error_iff`, a value is refused exactly when it is neither a string nor a table
with a label.
-/

namespace InlineVariables

open Toml (Value)

/-- The fields of a structured variable, each as text. -/
structure Record where
  fields : Assoc String
  deriving DecidableEq, Repr

namespace Record

/-- The text of a field: a string as it is, any other value in its written form. -/
def fieldText : Value → String
  | .string text => text
  | value => value.display

def ofTable (table : Toml.Table) : Record :=
  ⟨table.map fun (name, value) => (name, fieldText value)⟩

def get? (r : Record) (field : String) : Option String :=
  Assoc.get? r.fields field

/-- The text shown when no modifier applies. -/
def label (r : Record) : String :=
  (r.get? "label").getD ""

def abbr? (r : Record) : Option String :=
  r.get? "abbr"

def url? (r : Record) : Option String :=
  r.get? "url"

end Record

/-- Plain text, or a record with a label. -/
inductive Variable where
  | simple (text : String)
  | structured (record : Record)
  deriving DecidableEq, Repr

namespace Variable

def isSimple : Value → Bool
  | .string _ => true
  | _ => false

def isStructured : Value → Bool
  | .table entries => Assoc.contains entries "label"
  | _ => false

/-- What a value that is no variable is said to be. -/
def describe : Value → String
  | .table _ => "table without label"
  | value => value.typeName

/-- The variable of a key, when its value is a string or a table with a label. -/
def ofValue (key : String) (value : Value) : Except ReferenceError Variable :=
  match value with
  | .string text => .ok (.simple text)
  | .table entries =>
    if Assoc.contains entries "label" then .ok (.structured (Record.ofTable entries))
    else .error (.unknownVariableType key (describe value))
  | other => .error (.unknownVariableType key (describe other))

theorem ofValue_eq_error_iff {key : String} {value : Value} {e : ReferenceError} :
    ofValue key value = .error e ↔
      isSimple value = false ∧ isStructured value = false ∧
        e = .unknownVariableType key (describe value) := by
  cases value with
  | table entries =>
    by_cases labelled : Assoc.contains entries "label" = true <;>
      simp [ofValue, isSimple, isStructured, labelled, eq_comm]
  | _ => simp [ofValue, isSimple, isStructured, eq_comm]

end Variable

end InlineVariables
