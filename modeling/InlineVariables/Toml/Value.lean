import InlineVariables.Assoc
import InlineVariables.Binary64.Basic
import InlineVariables.Toml.Datetime

/-!
TOML values. A table is the list of its entries in order; `Table.Distinct` says that no table
repeats a key.
-/

namespace InlineVariables.Toml

inductive Value where
  | string (text : String)
  | integer (n : Int)
  | float (x : Binary64)
  | boolean (b : Bool)
  | datetime (d : Datetime)
  | array (items : List Value)
  | table (entries : List (String × Value))
  deriving Repr, Inhabited

abbrev Table := Assoc Value

namespace Value

def typeName : Value → String
  | .string _ => "string"
  | .integer _ => "integer"
  | .float _ => "float"
  | .boolean _ => "boolean"
  | .datetime _ => "datetime"
  | .array _ => "array"
  | .table _ => "table"

def table? : Value → Option Table
  | .table entries => some entries
  | _ => none

end Value

mutual

/-- Equality of values, decided along the first of them. -/
def Value.same : Value → Value → Bool
  | .string s, .string t => decide (s = t)
  | .integer m, .integer n => decide (m = n)
  | .float x, .float y => decide (x = y)
  | .boolean b, .boolean c => decide (b = c)
  | .datetime d, .datetime e => decide (d = e)
  | .array items, .array others => Value.allSame items others
  | .table entries, .table others => Table.same entries others
  | _, _ => false

def Value.allSame : List Value → List Value → Bool
  | [], [] => true
  | item :: items, other :: others => item.same other && Value.allSame items others
  | _, _ => false

def Table.same : List (String × Value) → List (String × Value) → Bool
  | [], [] => true
  | (key, value) :: entries, (name, other) :: others =>
    decide (key = name) && value.same other && Table.same entries others
  | _, _ => false

end

mutual

theorem Value.same_iff : ∀ a b : Value, a.same b = true ↔ a = b
  | .string _, b | .integer _, b | .float _, b | .boolean _, b | .datetime _, b => by
    cases b <;> simp [Value.same]
  | .array items, b => by
    cases b with
    | array others => simp [Value.same, Value.allSame_iff items others]
    | _ => simp [Value.same]
  | .table entries, b => by
    cases b with
    | table others => simp [Value.same, Table.same_iff entries others]
    | _ => simp [Value.same]

theorem Value.allSame_iff : ∀ items others : List Value,
    Value.allSame items others = true ↔ items = others
  | [], [] | [], _ :: _ | _ :: _, [] => by simp [Value.allSame]
  | item :: items, other :: others => by
    simp [Value.allSame, Value.same_iff item other, Value.allSame_iff items others]

theorem Table.same_iff : ∀ entries others : List (String × Value),
    Table.same entries others = true ↔ entries = others
  | [], [] | [], _ :: _ | _ :: _, [] => by simp [Table.same]
  | (key, value) :: entries, (name, other) :: others => by
    simp [Table.same, Value.same_iff value other, Table.same_iff entries others]

end

-- `deriving` does not go through the lists inside a value.
instance : DecidableEq Value := fun a b =>
  decidable_of_iff _ (Value.same_iff a b)

mutual

/-- No table inside the value repeats a key. -/
def Value.Distinct : Value → Prop
  | .array items => Value.AllDistinct items
  | .table entries => (entries.map (·.1)).Nodup ∧ Table.ValuesDistinct entries
  | _ => True

/-- No table inside one of the values repeats a key. -/
def Value.AllDistinct : List Value → Prop
  | [] => True
  | item :: items => item.Distinct ∧ Value.AllDistinct items

/-- No table inside one of the entries repeats a key. -/
def Table.ValuesDistinct : List (String × Value) → Prop
  | [] => True
  | (_, value) :: rest => value.Distinct ∧ Table.ValuesDistinct rest

end

/-- No key is repeated in the table or in a table inside it. -/
def Table.Distinct (t : Table) : Prop :=
  (Assoc.keys t).Nodup ∧ Table.ValuesDistinct t

end InlineVariables.Toml
