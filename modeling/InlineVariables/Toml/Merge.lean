import InlineVariables.Toml.Value

/-!
Merging of tables: entries of the later table replace those of the earlier one, except that two tables
under one key are merged in turn. A key keeps its place, a new one is added at the end.
-/

namespace InlineVariables.Toml

mutual

/-- A value laid over what was there: two tables are merged, anything else is replaced. -/
def Value.over (old : Option Value) : Value → Value
  | .table entries =>
    match old with
    | some (.table base) => .table (Table.merge base entries)
    | _ => .table entries
  | value => value

/-- Lays entries over a table, one after another. -/
def Table.merge : Table → List (String × Value) → Table
  | base, [] => base
  | base, (key, value) :: rest =>
    Table.merge (Assoc.insert base key (value.over (Assoc.get? base key))) rest

end

namespace Table

/-- The entries of the table under a key, none when there is no table. -/
def inner (t : Table) (key : String) : Table :=
  match Assoc.get? t key with
  | some (.table entries) => entries
  | _ => []

/-- Lays a value over what a path of keys leads to. Where the path leads through anything but a table,
a new table takes its place. At the empty path only a table has an effect. -/
def mergeAt : Table → List String → Value → Table
  | t, [], .table entries => merge t entries
  | t, [], _ => t
  | t, [key], value => Assoc.insert t key (value.over (Assoc.get? t key))
  | t, key :: next :: path, value =>
    Assoc.insert t key (.table (mergeAt (inner t key) (next :: path) value))

end Table

def Value.at? : Value → List String → Option Value
  | value, [] => some value
  | .table entries, key :: path =>
    match Assoc.get? entries key with
    | some value => value.at? path
    | none => none
  | _, _ :: _ => none

end InlineVariables.Toml
