import InlineVariables.Options.Entry
import InlineVariables.Proofs.Toml.UniqueKeys

/-!
Merges, key by key. What lies under a key afterwards depends on what lay there and on the values laid
over it in turn (`get?_merge`). A merge at a path is the merge of a table that holds the value alone at
that path, so entries one after another are one merge (`Entry.mergeAll_eq_merge`). Main statement:
`merge_again`, a merge done twice is done once.
-/

namespace InlineVariables.Toml

/-! ### Values laid over one another -/

namespace Value

/-- Lays values over what was there, one after another. -/
def overAll (old : Option Value) (values : List Value) : Option Value :=
  values.foldl (fun found value => some (value.over found)) old

/-- The entries of what was there, none when it was no table. -/
def base : Option Value → Table
  | some (.table entries) => entries
  | _ => []

theorem base_distinct {old : Option Value} (fine : ∀ value, old = some value → value.Distinct) :
    Table.Distinct (base old) := by
  unfold base
  split
  · exact fine _ rfl
  · exact .nil

theorem over_none (value : Value) : value.over none = value := by
  cases value <;> rfl

theorem over_of_not_table {value : Value} (other : value.table? = none) (old : Option Value) :
    value.over old = value := by
  cases value with
  | table entries => cases other
  | _ => rfl

theorem overAll_cons (old : Option Value) (value : Value) (rest : List Value) :
    overAll old (value :: rest) = overAll (some (value.over old)) rest := rfl

theorem overAll_append (old : Option Value) (first second : List Value) :
    overAll old (first ++ second) = overAll (overAll old first) second :=
  List.foldl_append

/-- Nothing of what was there before a value that is no table can be seen after it. -/
theorem overAll_reset {value : Value} (other : value.table? = none) (old : Option Value)
    (before after : List Value) :
    overAll old (before ++ value :: after) = overAll (some value) after := by
  rw [overAll_append, overAll_cons, over_of_not_table other]

theorem overAll_isSome {old : Option Value} {values : List Value}
    (some_value : old.isSome = true ∨ values ≠ []) : (overAll old values).isSome = true := by
  induction values generalizing old with
  | nil =>
    rcases some_value with there | absurd_nil
    · exact there
    · exact absurd rfl absurd_nil
  | cons value rest ih => exact ih (.inl rfl)

/-- The values from the last one on that is no table, if there is one. -/
theorem tables_or_reset (values : List Value) :
    (∃ tables : List Table, values = tables.map .table) ∨
      ∃ before value tables, value.table? = none ∧
        values = before ++ value :: List.map Value.table tables := by
  induction values with
  | nil => exact .inl ⟨[], rfl⟩
  | cons value rest ih =>
    rcases ih with ⟨tables, rfl⟩ | ⟨before, last, tables, other, rfl⟩
    · cases shape : value.table? with
      | some entries =>
        cases value with
        | table inner => exact .inl ⟨inner :: tables, rfl⟩
        | _ => cases shape
      | none => exact .inr ⟨[], value, tables, shape, rfl⟩
    · exact .inr ⟨value :: before, last, tables, other, rfl⟩

theorem overAll_all_tables (entries : Table) (tables : List Table) :
    ∃ t, overAll (some (.table entries)) (tables.map .table) = some (.table t) := by
  induction tables generalizing entries with
  | nil => exact ⟨entries, rfl⟩
  | cons first rest ih =>
    obtain ⟨t, laid⟩ := ih (Table.merge entries first)
    exact ⟨t, laid⟩

theorem overAll_eq_or {values : List Value}
    (plain : ∀ value, overAll none values = some value → value.table? = none) (old : Option Value) :
    overAll old values = (overAll none values).or old := by
  rcases tables_or_reset values with ⟨tables, rfl⟩ | ⟨before, value, tables, other, rfl⟩
  · cases tables with
    | nil => rfl
    | cons first rest =>
      obtain ⟨t, laid⟩ := overAll_all_tables first rest
      rw [List.map_cons, overAll_cons, over_none] at plain
      cases plain _ laid
  · rw [overAll_reset other, overAll_reset other]
    have there : (overAll (some value) (tables.map .table)).isSome = true :=
      overAll_isSome (.inl rfl)
    exact (Option.or_eq_left_of_isSome there).symm

end Value

namespace Table

/-! ### Keys and look-ups of a merge -/

theorem merge_cons (t : Table) (key : String) (value : Value) (rest : List (String × Value)) :
    merge t ((key, value) :: rest) =
      merge (Assoc.insert t key (value.over (Assoc.get? t key))) rest := rfl

theorem merge_append (t : Table) (first second : List (String × Value)) :
    merge t (first ++ second) = merge (merge t first) second := by
  induction first generalizing t with
  | nil => rfl
  | cons entry rest ih => exact ih _

/-- All values that entries give for a key, in order. -/
def valuesAt : List (String × Value) → String → List Value
  | [], _ => []
  | (k, value) :: rest, key => if k = key then value :: valuesAt rest key else valuesAt rest key

theorem mem_valuesAt {entries : List (String × Value)} {key : String} {value : Value} :
    value ∈ valuesAt entries key ↔ (key, value) ∈ entries := by
  induction entries with
  | nil => simp [valuesAt]
  | cons entry rest ih =>
    obtain ⟨k, v⟩ := entry
    by_cases same : k = key
    · simp [valuesAt, same, ih]
    · simp [valuesAt, same, ih, Ne.symm same]

theorem get?_merge (t : Table) (entries : List (String × Value)) (key : String) :
    Assoc.get? (merge t entries) key =
      Value.overAll (Assoc.get? t key) (valuesAt entries key) := by
  induction entries generalizing t with
  | nil => rfl
  | cons entry rest ih =>
    obtain ⟨k, v⟩ := entry
    rw [merge_cons, ih, Assoc.get?_insert, valuesAt]
    by_cases same : k = key
    · subst same
      rw [if_pos rfl, if_pos rfl, Value.overAll_cons]
    · rw [if_neg same, if_neg same]

theorem nodup_merge {t : Table} (unique : (Assoc.keys t).Nodup) (entries : List (String × Value)) :
    (Assoc.keys (merge t entries)).Nodup := by
  induction entries generalizing t with
  | nil => exact unique
  | cons entry rest ih => exact ih (Assoc.nodup_insert unique _ _)

theorem mem_keys_merge {t : Table} {entries : List (String × Value)} {key : String} :
    key ∈ Assoc.keys (merge t entries) ↔ key ∈ Assoc.keys t ∨ key ∈ Assoc.keys entries := by
  induction entries generalizing t with
  | nil => simp [merge, Assoc.keys]
  | cons entry rest ih =>
    obtain ⟨k, v⟩ := entry
    rw [merge_cons, ih, Assoc.mem_keys_insert]
    simp only [Assoc.keys, List.map_cons, List.mem_cons]
    grind

theorem keys_merge_of_subset {t : Table} {entries : List (String × Value)}
    (there : ∀ key ∈ Assoc.keys entries, key ∈ Assoc.keys t) :
    Assoc.keys (merge t entries) = Assoc.keys t := by
  induction entries generalizing t with
  | nil => rfl
  | cons entry rest ih =>
    obtain ⟨k, v⟩ := entry
    have first : Assoc.contains t k = true := Assoc.contains_iff.2 (there k List.mem_cons_self)
    have same := Assoc.keys_insert_of_contains (v.over (Assoc.get? t k)) first
    rw [merge_cons, ih, same]
    intro key member
    rw [same]
    exact there key (List.mem_cons_of_mem _ member)

theorem merge_of_new {t : Table} {entries : List (String × Value)}
    (unique : (Assoc.keys (t ++ entries)).Nodup) : merge t entries = t ++ entries := by
  induction entries generalizing t with
  | nil => exact (List.append_nil t).symm
  | cons entry rest ih =>
    obtain ⟨k, v⟩ := entry
    have absent : Assoc.contains t k = false := Assoc.not_contains_of_nodup unique
    have none_there : Assoc.get? t k = none := by
      simpa [Assoc.contains] using absent
    rw [List.append_cons] at unique ⊢
    rw [merge_cons, none_there, Value.over_none, Assoc.insert_of_not_contains v absent, ih unique]

theorem merge_nil {entries : Table} (unique : (Assoc.keys entries).Nodup) :
    merge [] entries = entries :=
  merge_of_new unique

theorem valuesAt_of_nodup {entries : Table} (unique : (Assoc.keys entries).Nodup) (key : String) :
    valuesAt entries key = (Assoc.get? entries key).toList := by
  induction entries with
  | nil => rfl
  | cons entry rest ih =>
    obtain ⟨k, v⟩ := entry
    obtain ⟨fresh, unique⟩ := List.nodup_cons.1 unique
    rw [valuesAt, Assoc.get?_cons, ih unique]
    by_cases same : k = key
    · subst same
      rw [if_pos rfl, if_pos rfl, Assoc.get?_eq_none_iff.2 fresh]
      rfl
    · rw [if_neg same, if_neg same]

/-- Under each key of the entries their value is laid over what was there. -/
theorem get?_merge_of_nodup {entries : Table} (unique : (Assoc.keys entries).Nodup) (t : Table)
    (key : String) :
    Assoc.get? (merge t entries) key =
      match Assoc.get? entries key with
      | none => Assoc.get? t key
      | some value => some (value.over (Assoc.get? t key)) := by
  rw [get?_merge, valuesAt_of_nodup unique]
  cases Assoc.get? entries key <;> rfl

/-- Old keys keep their places, and new ones follow in the order of the entries. -/
theorem keys_merge (t : Table) {entries : Table} (unique : (Assoc.keys entries).Nodup) :
    Assoc.keys (merge t entries) =
      Assoc.keys t ++ (Assoc.keys entries).filter fun key => !Assoc.contains t key := by
  induction entries generalizing t with
  | nil => exact (List.append_nil _).symm
  | cons entry rest ih =>
    obtain ⟨k, v⟩ := entry
    obtain ⟨fresh, unique⟩ := List.nodup_cons.1 unique
    have others : ∀ key ∈ Assoc.keys rest,
        Assoc.contains (Assoc.insert t k (v.over (Assoc.get? t k))) key = Assoc.contains t key := by
      intro key member
      refine Assoc.contains_insert_other t _ ?_
      rintro rfl
      exact fresh member
    rw [merge_cons, ih _ unique, List.filter_congr fun key member => congrArg _ (others key member),
      Assoc.keys_insert]
    change _ = _ ++ List.filter _ (k :: Assoc.keys rest)
    cases present : Assoc.contains t k <;> simp [present]

/-! ### Merging twice -/

theorem over_table_eq {entries : Table} (unique : (Assoc.keys entries).Nodup) (old : Option Value) :
    (Value.table entries).over old = .table (merge (Value.base old) entries) := by
  rw [Value.over_table]
  split
  · rfl
  · rename_i other
    have nothing : Value.base old = [] := by
      unfold Value.base
      split
      · exact absurd rfl (other _)
      · rfl
    rw [nothing, merge_nil unique]

theorem overAll_tables {tables : List Table} (some_table : tables ≠ [])
    (unique : ∀ t ∈ tables, (Assoc.keys t).Nodup) (old : Option Value) :
    Value.overAll old (tables.map .table) =
      some (.table (merge (Value.base old) tables.flatten)) := by
  induction tables generalizing old with
  | nil => exact absurd rfl some_table
  | cons first rest ih =>
    obtain ⟨here, there⟩ := List.forall_mem_cons.1 unique
    rw [List.map_cons, Value.overAll_cons, over_table_eq here, List.flatten_cons, merge_append]
    by_cases last : rest = []
    · subst last
      rfl
    · rw [ih last there]
      rfl

/-- What is laid over itself again does not change, when tables smaller than the values do not. -/
theorem overAll_again {values : List Value} (fine : ∀ value ∈ values, value.Distinct)
    {old : Option Value} (before : ∀ value, old = some value → value.Distinct)
    (smaller : ∀ tables : List Table, values = tables.map .table → ∀ t : Table, t.Distinct →
      merge (merge t tables.flatten) tables.flatten = merge t tables.flatten) :
    Value.overAll (Value.overAll old values) values = Value.overAll old values := by
  -- A value that is no table hides all before it; tables alone are one merge, done twice.
  rcases Value.tables_or_reset values with ⟨tables, rfl⟩ | ⟨earlier, value, tables, other, rfl⟩
  · by_cases nothing : tables = []
    · subst nothing
      rfl
    · have unique : ∀ t ∈ tables, (Assoc.keys t).Nodup :=
        fun t member => (fine _ (List.mem_map_of_mem member)).1
      have start : Table.Distinct (Value.base old) := Value.base_distinct before
      rw [overAll_tables nothing unique, overAll_tables nothing unique]
      exact congrArg _ (congrArg _ (smaller tables rfl _ start))
  · rw [Value.overAll_reset other, Value.overAll_reset other]

theorem sizeOf_lt_of_mem_flatten {tables : List Table} {entry : String × Value} {n : Nat}
    (member : entry ∈ tables.flatten) (small : ∀ t ∈ tables, sizeOf (Value.table t) < n + 1) :
    sizeOf entry.2 < n := by
  obtain ⟨t, inner, here⟩ := List.mem_flatten.1 member
  have bound := small t inner
  have part := List.sizeOf_lt_of_mem here
  obtain ⟨key, value⟩ := entry
  simp only [Value.table.sizeOf_spec, Prod.mk.sizeOf_spec] at bound part ⊢
  omega

theorem merge_again_of_size (n : Nat) {t : Table} {entries : List (String × Value)}
    (small : ∀ entry ∈ entries, sizeOf entry.2 < n) (unique : t.Distinct)
    (fine : ValuesDistinct entries) : merge (merge t entries) entries = merge t entries := by
  -- By depth: under a key the tables among the values are merged in turn, and these are smaller.
  induction n generalizing t entries with
  | zero =>
    cases entries with
    | nil => rfl
    | cons entry rest => exact absurd (small entry List.mem_cons_self) (Nat.not_lt_zero _)
  | succ n ih =>
    refine Assoc.ext_get? (nodup_merge (nodup_merge unique.1 _) _) ?_ fun key => ?_
    · exact keys_merge_of_subset fun key member => mem_keys_merge.2 (.inr member)
    · rw [get?_merge, get?_merge]
      have values : ∀ value ∈ valuesAt entries key, value.Distinct ∧ sizeOf value < n + 1 := by
        intro value member
        have entry := mem_valuesAt.1 member
        exact ⟨valuesDistinct_iff.1 fine _ entry, small _ entry⟩
      refine overAll_again (fun value member => (values value member).1)
        (fun value found => unique.get? found) ?_
      intro tables same base start
      rw [same] at values
      have inner : ∀ t ∈ tables, (Value.table t).Distinct ∧ sizeOf (Value.table t) < n + 1 :=
        fun t member => values _ (List.mem_map_of_mem member)
      refine ih (fun entry member => ?_) start (valuesDistinct_iff.2 fun entry member => ?_)
      · exact sizeOf_lt_of_mem_flatten member fun t member => (inner t member).2
      · obtain ⟨t, there, here⟩ := List.mem_flatten.1 member
        exact valuesDistinct_iff.1 (inner t there).1.2 entry here

/-- A merge done twice is done once. Keys may repeat among the entries themselves. -/
theorem merge_again {t : Table} {entries : List (String × Value)} (unique : t.Distinct)
    (fine : ValuesDistinct entries) : merge (merge t entries) entries = merge t entries := by
  refine merge_again_of_size (sizeOf entries) (fun entry member => ?_) unique fine
  have part := List.sizeOf_lt_of_mem member
  obtain ⟨key, value⟩ := entry
  simp only [Prod.mk.sizeOf_spec] at part ⊢
  omega

end Table

/-! ### Merges at a path -/

/-- A value in tables that hold nothing but the path to it. -/
def Value.under : List String → Value → Value
  | [], value => value
  | key :: path, value => .table [(key, value.under path)]

theorem Value.under_distinct {value : Value} (fine : value.Distinct) (path : List String) :
    (value.under path).Distinct := by
  induction path with
  | nil => exact fine
  | cons key path ih => exact ⟨List.pairwise_singleton _ key, ih, trivial⟩

namespace Table

/-- The entries of the table that a merge at a path lays over another, none for a value that has no
effect. -/
def overlay (path : List String) (value : Value) : Table :=
  Value.base (some (value.under path))

theorem overlay_distinct {value : Value} (fine : value.Distinct) (path : List String) :
    (overlay path value).Distinct := by
  refine Value.base_distinct ?_
  rintro _ ⟨⟩
  exact Value.under_distinct fine path

theorem mergeAt_eq_merge (t : Table) (path : List String) (value : Value) :
    t.mergeAt path value = merge t (overlay path value) := by
  induction path generalizing t with
  | nil => cases value <;> rfl
  | cons key path ih =>
    cases path with
    | nil => rfl
    | cons next path =>
      have single : (Assoc.keys (overlay (next :: path) value)).Nodup :=
        List.pairwise_singleton _ next
      calc t.mergeAt (key :: next :: path) value
          = Assoc.insert t key (.table ((t.inner key).mergeAt (next :: path) value)) := rfl
        _ = Assoc.insert t key (.table (merge (t.inner key) (overlay (next :: path) value))) := by
          rw [ih]
        _ = Assoc.insert t key ((value.under (next :: path)).over (Assoc.get? t key)) := by
          exact congrArg _ (over_table_eq single _).symm

theorem mergeAt_cons (t : Table) (key : String) (path : List String) (value : Value) :
    t.mergeAt (key :: path) value =
      Assoc.insert t key ((value.under path).over (Assoc.get? t key)) :=
  mergeAt_eq_merge t (key :: path) value

theorem inner_insert_self (t : Table) (key : String) (entries : Table) :
    inner (Assoc.insert t key (.table entries)) key = entries := by
  rw [inner, Assoc.get?_insert_self]

end Table

end InlineVariables.Toml

namespace InlineVariables.Entry

open Toml (Table)

/-- What an entry lays over a table. -/
def overlay (entry : Entry) : Table :=
  Table.overlay entry.path entry.value

theorem mergeAll_eq_merge (t : Table) (entries : List Entry) :
    mergeAll t entries = Table.merge t (entries.flatMap overlay) := by
  induction entries generalizing t with
  | nil => rfl
  | cons entry rest ih =>
    have first : mergeInto t entry = Table.merge t entry.overlay := Table.mergeAt_eq_merge _ _ _
    rw [List.flatMap_cons, Table.merge_append, ← first, ← ih]
    rfl

theorem overlays_distinct {entries : List Entry} (fine : ∀ entry ∈ entries, entry.value.Distinct) :
    Table.ValuesDistinct (entries.flatMap overlay) := by
  refine Toml.Table.valuesDistinct_iff.2 fun laid member => ?_
  obtain ⟨entry, given, inside⟩ := List.mem_flatMap.1 member
  have unique : entry.overlay.Distinct := Table.overlay_distinct (fine entry given) entry.path
  exact Toml.Table.valuesDistinct_iff.1 unique.2 laid inside

theorem mergeAll_distinct {t : Table} {entries : List Entry} (unique : t.Distinct)
    (fine : ∀ entry ∈ entries, entry.value.Distinct) : (mergeAll t entries).Distinct := by
  rw [mergeAll_eq_merge]
  exact Table.merge_distinct t _ unique (overlays_distinct fine)

theorem mergeAll_again {t : Table} {entries : List Entry} (unique : t.Distinct)
    (fine : ∀ entry ∈ entries, entry.value.Distinct) :
    mergeAll (mergeAll t entries) entries = mergeAll t entries := by
  simp only [mergeAll_eq_merge]
  exact Table.merge_again unique (overlays_distinct fine)

end InlineVariables.Entry
