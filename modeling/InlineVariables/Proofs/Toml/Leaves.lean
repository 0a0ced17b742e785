import InlineVariables.Proofs.Toml.EveryKey
import InlineVariables.Proofs.Toml.LookUp

/-!
The leaves of a table, depth first, with the paths to them (`Table.mem_leaves_iff`). Merged one after
another into another table they do what the table itself does (`Table.mergeAll_leaves`), so a table is
built again from its leaves. Main statement: `Table.merge_leaf_by_leaf`.
-/

namespace InlineVariables

/-- The entry from one level up, where it lies under a key. -/
def Entry.under (key : String) (entry : Entry) : Entry :=
  ⟨key :: entry.path, entry.value⟩

/-- The entry from some levels up, where it lies beyond a path. -/
def Entry.below (path : List String) (entry : Entry) : Entry :=
  ⟨path ++ entry.path, entry.value⟩

namespace Toml

mutual

/-- What is no table or an empty one is a leaf; any other table has the leaves of its entries. -/
def Value.leaves : Value → List Entry
  | .table entries =>
    if entries.isEmpty then [⟨[], .table entries⟩] else Table.leaves entries
  | value => [⟨[], value⟩]

/-- The leaves of all entries in order. -/
def Table.leaves : List (String × Value) → List Entry
  | [] => []
  | (key, value) :: rest => value.leaves.map (.under key) ++ Table.leaves rest

end

theorem Table.leaves_path {t : Table} : ∀ leaf ∈ Table.leaves t, leaf.path ≠ [] := by
  induction t with
  | nil => exact nofun
  | cons entry rest ih =>
    obtain ⟨key, value⟩ := entry
    intro leaf member
    rw [Table.leaves] at member
    rcases List.mem_append.1 member with here | there
    · obtain ⟨inner, _, rfl⟩ := List.mem_map.1 here
      exact List.cons_ne_nil key inner.path
    · exact ih leaf there

mutual

theorem Value.leaves_ne_nil : ∀ value : Value, value.leaves ≠ []
  | .table entries => by
    unfold Value.leaves
    split
    · exact List.cons_ne_nil _ _
    · rename_i filled
      exact Table.leaves_ne_nil entries fun empty => filled (List.isEmpty_iff.2 empty)
  | .string _ => List.cons_ne_nil _ _
  | .integer _ => List.cons_ne_nil _ _
  | .float _ => List.cons_ne_nil _ _
  | .boolean _ => List.cons_ne_nil _ _
  | .datetime _ => List.cons_ne_nil _ _
  | .array _ => List.cons_ne_nil _ _

theorem Table.leaves_ne_nil : ∀ entries : List (String × Value), entries ≠ [] →
    Table.leaves entries ≠ []
  | [], some_entry => absurd rfl some_entry
  | (key, value) :: rest, _ => by
    rw [Table.leaves]
    intro nothing
    obtain ⟨own, _⟩ := List.append_eq_nil_iff.1 nothing
    exact Value.leaves_ne_nil value (List.map_eq_nil_iff.1 own)

end

/-! ### Which entries are leaves -/

/-- No table, or one without entries. -/
def Value.IsLeaf (value : Value) : Prop :=
  ∀ entries, value = .table entries → entries = []

theorem Value.isLeaf_of_not_table {value : Value} (plain : value.table? = none) : value.IsLeaf := by
  rintro entries rfl
  cases plain

theorem Value.IsLeaf.at?_cons {value : Value} (last : value.IsLeaf) (key : String) (path : List String) :
    value.at? (key :: path) = none := by
  cases value with
  | table entries =>
    obtain rfl := last entries rfl
    rfl
  | _ => rfl

theorem Value.IsLeaf.mem_iff {value : Value} (last : value.IsLeaf) (leaf : Entry) :
    leaf ∈ [Entry.mk [] value] ↔ value.at? leaf.path = some leaf.value ∧ leaf.value.IsLeaf := by
  obtain ⟨path, found⟩ := leaf
  rw [List.mem_singleton, Entry.mk.injEq]
  cases path with
  | nil =>
    rw [Value.at?_nil, Option.some.injEq]
    constructor
    · rintro ⟨_, rfl⟩
      exact ⟨rfl, last⟩
    · rintro ⟨same, _⟩
      exact ⟨rfl, same.symm⟩
  | cons key path =>
    rw [last.at?_cons]
    exact ⟨nofun, nofun⟩

theorem mem_map_under {leaves : List Entry} {key first : String} {path : List String} {value : Value} :
    Entry.mk (first :: path) value ∈ leaves.map (.under key) ↔
      key = first ∧ Entry.mk path value ∈ leaves := by
  rw [List.mem_map]
  constructor
  · rintro ⟨leaf, member, same⟩
    cases same
    exact ⟨rfl, member⟩
  · rintro ⟨rfl, member⟩
    exact ⟨_, member, rfl⟩

mutual

/-- The leaves are the leaf values that paths lead to, each at its path. -/
theorem Value.mem_leaves_iff : ∀ value : Value, value.Distinct → ∀ leaf : Entry,
    leaf ∈ value.leaves ↔ value.at? leaf.path = some leaf.value ∧ leaf.value.IsLeaf
  | .table entries, unique, leaf => by
    unfold Value.leaves
    split
    · rename_i empty
      have last : (Value.table entries).IsLeaf := by
        rintro _ ⟨⟩
        exact List.isEmpty_iff.1 empty
      exact last.mem_iff leaf
    · rename_i filled
      rw [Table.mem_leaves_iff entries unique]
      refine ⟨And.right, fun leads => ⟨fun root => ?_, leads⟩⟩
      obtain ⟨here, last⟩ := leads
      rw [root, Value.at?_nil] at here
      exact filled (List.isEmpty_iff.2 (last entries (Option.some.inj here).symm))
  | .string _, _, leaf | .integer _, _, leaf | .float _, _, leaf
  | .boolean _, _, leaf | .datetime _, _, leaf | .array _, _, leaf =>
    (Value.isLeaf_of_not_table rfl).mem_iff leaf

theorem Table.mem_leaves_iff : ∀ entries : List (String × Value), Table.Distinct entries →
    ∀ leaf : Entry, leaf ∈ Table.leaves entries ↔
      leaf.path ≠ [] ∧ Table.at? entries leaf.path = some leaf.value ∧ leaf.value.IsLeaf
  | [], _, leaf => by
    obtain ⟨path, value⟩ := leaf
    cases path <;> simp [Table.leaves, Table.at?, Value.at?_table]
  | (key, value) :: rest, ⟨unique, inner, others⟩, ⟨path, found⟩ => by
    obtain ⟨fresh, unique⟩ := List.nodup_cons.1 unique
    have later := Table.mem_leaves_iff rest ⟨unique, others⟩
    rw [Table.leaves, List.mem_append, later]
    cases path with
    | nil =>
      refine iff_of_false ?_ fun leads => leads.1 rfl
      rintro (here | leads)
      · obtain ⟨leaf, _, same⟩ := List.mem_map.1 here
        cases same
      · exact leads.1 rfl
    | cons first path =>
      rw [mem_map_under, Value.mem_leaves_iff value inner, Table.at?, Table.at?, Value.at?_table,
        Value.at?_table, Assoc.get?_cons]
      by_cases same : key = first
      · subst same
        rw [Assoc.get?_eq_none_iff.2 fresh, if_pos rfl]
        simp
      · rw [if_neg same]
        simp [same]

end

end Toml

namespace Entry

open Toml (Table Value)

theorem mergeInto_under (t : Table) (key : String) {entry : Entry} (deep : entry.path ≠ []) :
    mergeInto t (entry.under key) =
      Assoc.insert t key (.table (mergeInto (t.inner key) entry)) := by
  obtain ⟨path, value⟩ := entry
  cases path with
  | nil => exact absurd rfl deep
  | cons next path => rfl

/-- Entries below a key are merged into the table under it. -/
theorem mergeAll_under (t : Table) (key : String) {entries : List Entry} (some_entry : entries ≠ [])
    (deep : ∀ entry ∈ entries, entry.path ≠ []) :
    mergeAll t (entries.map (under key)) =
      Assoc.insert t key (.table (mergeAll (t.inner key) entries)) := by
  induction entries generalizing t with
  | nil => exact absurd rfl some_entry
  | cons entry rest ih =>
    obtain ⟨here, there⟩ := List.forall_mem_cons.1 deep
    rw [List.map_cons, mergeAll_cons, mergeAll_cons, mergeInto_under t key here]
    by_cases last : rest = []
    · subst last
      rfl
    · rw [ih _ last there, Table.inner_insert_self, Assoc.insert_insert_self]

end Entry

namespace Toml

theorem Table.base_get? (t : Table) (key : String) : Value.base (Assoc.get? t key) = t.inner key :=
  rfl

mutual

theorem Value.mergeAll_leaves : ∀ value : Value, value.Distinct → ∀ (t : Table) (key : String),
    Entry.mergeAll t (value.leaves.map (.under key)) =
      Assoc.insert t key (value.over (Assoc.get? t key))
  | .table entries, unique, t, key => by
    unfold Value.leaves
    split
    · rfl
    · rename_i filled
      have some_leaf := Table.leaves_ne_nil entries fun empty => filled (List.isEmpty_iff.2 empty)
      rw [Entry.mergeAll_under t key some_leaf Table.leaves_path,
        Table.mergeAll_leaves entries unique.2, Table.over_table_eq unique.1, Table.base_get?]
  | .string _, _, _, _ => rfl
  | .integer _, _, _, _ => rfl
  | .float _, _, _, _ => rfl
  | .boolean _, _, _, _ => rfl
  | .datetime _, _, _, _ => rfl
  | .array _, _, _, _ => rfl

/-- The leaves of a table, merged one after another, do what the table does. -/
theorem Table.mergeAll_leaves : ∀ entries : List (String × Value), Table.ValuesDistinct entries →
    ∀ t : Table, Entry.mergeAll t (Table.leaves entries) = Table.merge t entries
  | [], _, _ => rfl
  | (key, value) :: rest, ⟨inner, others⟩, t => by
    rw [Table.leaves, Entry.mergeAll_append, Value.mergeAll_leaves value inner,
      Table.mergeAll_leaves rest others, Table.merge_cons]

end

theorem Table.mergeAll_leaves_below {entries : Table} (unique : entries.Distinct) {path : List String}
    (deep : path ≠ []) (t : Table) :
    Entry.mergeAll t (⟨path, .table []⟩ :: (Table.leaves entries).map (.below path)) =
      t.mergeAt path (.table entries) := by
  induction path generalizing t with
  | nil => exact absurd rfl deep
  | cons key path ih =>
    cases path with
    | nil =>
      -- The empty table first makes sure of a table under the key, also where there is no leaf.
      have start : Entry.mergeInto t ⟨[key], .table []⟩ = Assoc.insert t key (.table (t.inner key)) :=
        congrArg _ (Table.over_table_eq Table.Distinct.nil.1 _)
      have whole : t.mergeAt [key] (.table entries) =
          Assoc.insert t key (.table (Table.merge (t.inner key) entries)) :=
        congrArg _ (Table.over_table_eq unique.1 _)
      rw [Entry.mergeAll_cons, start, whole]
      by_cases empty : entries = []
      · subst empty
        rfl
      · have some_leaf := Table.leaves_ne_nil entries empty
        change Entry.mergeAll _ ((Table.leaves entries).map (.under key)) = _
        rw [Entry.mergeAll_under _ key some_leaf Table.leaves_path, Table.inner_insert_self,
          Assoc.insert_insert_self, Table.mergeAll_leaves entries unique.2]
    | cons next path =>
      have lower := ih (List.cons_ne_nil next path) (t.inner key)
      have paths : ∀ entry ∈ (⟨next :: path, .table []⟩ :: (Table.leaves entries).map
          (.below (next :: path)) : List Entry), entry.path ≠ [] := by
        simp [Entry.below]
      calc Entry.mergeAll t (⟨key :: next :: path, .table []⟩ ::
              (Table.leaves entries).map (.below (key :: next :: path)))
          = Entry.mergeAll t ((⟨next :: path, .table []⟩ ::
              (Table.leaves entries).map (.below (next :: path))).map (.under key)) := by
            rw [List.map_cons, List.map_map]
            rfl
        _ = Assoc.insert t key (.table ((t.inner key).mergeAt (next :: path) (.table entries))) := by
            rw [Entry.mergeAll_under t key (List.cons_ne_nil _ _) paths, lower]

/-- A table merged at once is its leaves merged one after another: the values on its paths that are no
table or an empty one. Below a path an empty table goes before them. -/
theorem Table.merge_leaf_by_leaf {entries : Table} (unique : entries.Distinct) (t : Table) :
    (∀ leaf, leaf ∈ Table.leaves entries ↔
      leaf.path ≠ [] ∧ entries.at? leaf.path = some leaf.value ∧ leaf.value.IsLeaf) ∧
    t.mergeAt [] (.table entries) = Entry.mergeAll t (Table.leaves entries) ∧
    ∀ path, path ≠ [] → t.mergeAt path (.table entries) =
      Entry.mergeAll t (⟨path, .table []⟩ :: (Table.leaves entries).map (.below path)) := by
  refine ⟨Table.mem_leaves_iff entries unique, ?_, ?_⟩
  · exact (Table.mergeAll_leaves entries unique.2 t).symm
  · intro path deep
    exact (Table.mergeAll_leaves_below unique deep t).symm

/-- A text is overwritten on the way to the first leaf; the last leaf is an empty table. -/
theorem Table.merge_leaf_by_leaf_who :
    let t : Table := [("data", .string "none"), ("severity", .string "warn")]
    let entries : Table :=
      [("data", .table [("who", .table [("label", .string "WHO")]), ("none", .table [])])]
    let leaves : List Entry :=
      [⟨["data", "who", "label"], .string "WHO"⟩, ⟨["data", "none"], .table []⟩]
    entries.Distinct ∧ Table.leaves entries = leaves ∧
      t.mergeAt [] (.table entries) = Entry.mergeAll t leaves ∧
      ["severity", "old"] ≠ [] ∧
      t.mergeAt ["severity", "old"] (.table entries) =
        Entry.mergeAll t (⟨["severity", "old"], .table []⟩ ::
          leaves.map (.below ["severity", "old"])) := by
  intro t entries leaves
  have unique : entries.Distinct := by
    simp [entries, Table.Distinct, Table.ValuesDistinct, Value.Distinct, Assoc.keys]
  obtain ⟨_, root, below⟩ := Table.merge_leaf_by_leaf unique t
  exact ⟨unique, rfl, root, by decide, below _ (by decide)⟩

/-! ### What holds of the leaves -/

mutual

theorem Value.textual_of_leaves : ∀ value : Value,
    (∀ leaf ∈ value.leaves, leaf.value.textual = leaf.value) → value.textual = value
  | .table entries, same => by
    unfold Value.leaves at same
    split at same
    · exact same _ List.mem_cons_self
    · rw [Value.textual, Table.textual_of_leaves entries same]
  | .string _, _ => rfl
  | .integer _, _ => rfl
  | .float _, _ => rfl
  | .boolean _, _ => rfl
  | .datetime d, same => same ⟨[], .datetime d⟩ List.mem_cons_self
  | .array items, same => same ⟨[], .array items⟩ List.mem_cons_self

theorem Table.textual_of_leaves : ∀ entries : List (String × Value),
    (∀ leaf ∈ Table.leaves entries, leaf.value.textual = leaf.value) →
      Table.textual entries = entries
  | [], _ => rfl
  | (key, value) :: rest, same => by
    rw [Table.leaves] at same
    have own : value.textual = value := by
      apply Value.textual_of_leaves
      intro leaf member
      exact same (leaf.under key) (List.mem_append_left _ (List.mem_map_of_mem member))
    have others : Table.textual rest = rest := by
      apply Table.textual_of_leaves
      intro leaf member
      exact same leaf (List.mem_append_right _ member)
    rw [Table.textual, own, others]

end

mutual

theorem Value.leaves_keys {p : String → Prop} : ∀ value : Value, value.EveryKey p →
    ∀ leaf ∈ value.leaves, ∀ key ∈ leaf.path, p key
  | .table entries, every, leaf, member => by
    unfold Value.leaves at member
    split at member
    · rw [List.mem_singleton.1 member]
      exact nofun
    · exact Table.leaves_keys entries every leaf member
  | .string _, _, _, member | .integer _, _, _, member | .float _, _, _, member
  | .boolean _, _, _, member | .datetime _, _, _, member | .array _, _, _, member => by
    rw [List.mem_singleton.1 member]
    exact nofun

theorem Table.leaves_keys {p : String → Prop} : ∀ entries : List (String × Value),
    Table.EveryKey p entries → ∀ leaf ∈ Table.leaves entries, ∀ key ∈ leaf.path, p key
  | [], _, _, member => absurd member List.not_mem_nil
  | (key, value) :: rest, ⟨own, inner, others⟩, leaf, member => by
    rw [Table.leaves] at member
    rcases List.mem_append.1 member with here | there
    · obtain ⟨below, found, rfl⟩ := List.mem_map.1 here
      exact List.forall_mem_cons.2 ⟨own, Value.leaves_keys value inner below found⟩
    · exact Table.leaves_keys rest others leaf there

end

end Toml
end InlineVariables
