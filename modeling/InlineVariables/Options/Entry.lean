import InlineVariables.Toml.Merge

/-!
Entries that sources contribute to the table of options.
-/

namespace InlineVariables

/-- A value and the path that it is merged at. -/
structure Entry where
  path : List String
  value : Toml.Value
  deriving Repr

namespace Entry

def root (table : Toml.Table) : Entry :=
  ⟨[], .table table⟩

def mergeInto (t : Toml.Table) (entry : Entry) : Toml.Table :=
  t.mergeAt entry.path entry.value

def mergeAll (t : Toml.Table) (entries : List Entry) : Toml.Table :=
  entries.foldl mergeInto t

theorem mergeAll_cons (t : Toml.Table) (entry : Entry) (rest : List Entry) :
    mergeAll t (entry :: rest) = mergeAll (mergeInto t entry) rest := rfl

theorem mergeAll_append (t : Toml.Table) (first second : List Entry) :
    mergeAll t (first ++ second) = mergeAll (mergeAll t first) second :=
  List.foldl_append

end Entry

end InlineVariables
