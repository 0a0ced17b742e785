import InlineVariables.Proofs.Toml.UniqueKeys

/-!
What becomes of the values of a table when they are restored. A document yields tables that repeat no
key and do not begin with the marker (`readDocument_distinct`, `readDocument_unmarked`). Of such a
table only the datetimes change when it is restored as a merged one: they become text
(`Table.restore_merged`).
-/

namespace InlineVariables.Toml

/-! ### What a restored value can be -/

theorem restoreMarked_ok {origin : Provenance} {value restored : Value} {others : Nat}
    (read : restoreMarked origin value others = .ok restored) : ∃ d, restored = .datetime d := by
  unfold restoreMarked at read
  split at read
  · cases read
  · split at read
    · cases read
    · split at read
      · cases read
      · cases read
        exact ⟨_, rfl⟩

namespace Value

variable {origin : Provenance}

theorem restore_array_ok {items : List Value} {restored : Value}
    (read : (Value.array items).restore origin = .ok restored) :
    ∃ more, restoreItems origin items = .ok more ∧ restored = .array more := by
  rw [restore] at read
  cases inner : restoreItems origin items with
  | error e =>
    rw [inner] at read
    cases read
  | ok more =>
    rw [inner] at read
    cases read
    exact ⟨more, rfl, rfl⟩

theorem restoreItems_cons_ok {item : Value} {items restored : List Value}
    (read : restoreItems origin (item :: items) = .ok restored) :
    ∃ first more, item.restore origin = .ok first ∧ restoreItems origin items = .ok more ∧
      restored = first :: more := by
  rw [restoreItems] at read
  split at read
  · cases read
  · rename_i first here
    cases there : restoreItems origin items with
    | error e =>
      rw [there] at read
      cases read
    | ok more =>
      rw [there] at read
      cases read
      exact ⟨first, more, here, rfl, rfl⟩

theorem restoreEntries_cons_ok {key : String} {value : Value}
    {rest restored : List (String × Value)}
    (read : restoreEntries origin ((key, value) :: rest) = .ok restored) :
    ∃ first more, value.restore origin = .ok first ∧ restoreEntries origin rest = .ok more ∧
      restored = (key, first) :: more := by
  rw [restoreEntries] at read
  split at read
  · cases read
  · rename_i first here
    cases there : restoreEntries origin rest with
    | error e =>
      rw [there] at read
      cases read
    | ok more =>
      rw [there] at read
      cases read
      exact ⟨first, more, here, rfl, rfl⟩

/-- A table that does not begin with the marker is restored entry by entry. -/
theorem restore_table {entries : List (String × Value)}
    (plain : ∀ value rest, entries ≠ (datetimeMarker, value) :: rest) :
    (Value.table entries).restore origin = (restoreEntries origin entries).map .table := by
  cases entries with
  | nil => rfl
  | cons entry rest =>
    obtain ⟨key, value⟩ := entry
    have other : key ≠ datetimeMarker := by
      rintro rfl
      exact plain value rest rfl
    rw [restore, if_neg other, restoreEntries]
    cases value.restore origin with
    | error e => rfl
    | ok first =>
      cases restoreEntries origin rest with
      | error e => rfl
      | ok more => rfl

theorem restore_table_ok {entries : List (String × Value)} {restored : Value}
    (read : (Value.table entries).restore origin = .ok restored) :
    (∃ d, restored = .datetime d) ∨
      (∀ value rest, entries ≠ (datetimeMarker, value) :: rest) ∧
        ∃ more, restoreEntries origin entries = .ok more ∧ restored = .table more := by
  by_cases marked : ∃ value rest, entries = (datetimeMarker, value) :: rest
  · obtain ⟨value, rest, rfl⟩ := marked
    rw [restore, if_pos rfl] at read
    exact .inl (restoreMarked_ok read)
  · have plain : ∀ value rest, entries ≠ (datetimeMarker, value) :: rest :=
      fun value rest same => marked ⟨value, rest, same⟩
    rw [restore_table plain] at read
    cases inner : restoreEntries origin entries with
    | error e =>
      rw [inner] at read
      cases read
    | ok more =>
      rw [inner] at read
      cases read
      exact .inr ⟨plain, more, rfl, rfl⟩

theorem restoreEntries_keys {entries restored : List (String × Value)}
    (read : restoreEntries origin entries = .ok restored) :
    restored.map (·.1) = entries.map (·.1) := by
  induction entries generalizing restored with
  | nil =>
    cases read
    rfl
  | cons entry rest ih =>
    obtain ⟨key, value⟩ := entry
    obtain ⟨first, more, here, there, rfl⟩ := restoreEntries_cons_ok read
    rw [List.map_cons, List.map_cons, ih there]

end Value

/-! ### Unique keys -/

mutual

theorem Value.restore_distinct {origin : Provenance} :
    ∀ value restored : Value, value.Distinct → value.restore origin = .ok restored →
      restored.Distinct
  | .array items, restored, fine, read => by
    obtain ⟨more, inner, rfl⟩ := Value.restore_array_ok read
    exact Value.restoreItems_distinct items more fine inner
  | .table entries, restored, fine, read => by
    rcases Value.restore_table_ok read with ⟨d, rfl⟩ | ⟨_, more, inner, rfl⟩
    · trivial
    · refine ⟨?_, Value.restoreEntries_distinct entries more fine.2 inner⟩
      rw [Value.restoreEntries_keys inner]
      exact fine.1
  | .datetime d, restored, _, read => by
    cases origin with
    | document =>
      cases read
      trivial
    | merged =>
      cases read
      trivial
  | .string _, _, _, read => by
    cases read
    trivial
  | .integer _, _, _, read => by
    cases read
    trivial
  | .float _, _, _, read => by
    cases read
    trivial
  | .boolean _, _, _, read => by
    cases read
    trivial

theorem Value.restoreItems_distinct {origin : Provenance} :
    ∀ items restored : List Value, Value.AllDistinct items →
      Value.restoreItems origin items = .ok restored → Value.AllDistinct restored
  | [], _, _, read => by
    cases read
    trivial
  | item :: items, restored, fine, read => by
    obtain ⟨first, more, here, there, rfl⟩ := Value.restoreItems_cons_ok read
    exact ⟨Value.restore_distinct item first fine.1 here,
      Value.restoreItems_distinct items more fine.2 there⟩

theorem Value.restoreEntries_distinct {origin : Provenance} :
    ∀ entries restored : List (String × Value), Table.ValuesDistinct entries →
      Value.restoreEntries origin entries = .ok restored → Table.ValuesDistinct restored
  | [], _, _, read => by
    cases read
    trivial
  | (key, value) :: rest, restored, fine, read => by
    obtain ⟨first, more, here, there, rfl⟩ := Value.restoreEntries_cons_ok read
    exact ⟨Value.restore_distinct value first fine.1 here,
      Value.restoreEntries_distinct rest more fine.2 there⟩

end

theorem Table.restore_distinct {origin : Provenance} {t restored : Table} (unique : t.Distinct)
    (read : t.restore origin = .ok restored) : restored.Distinct := by
  refine ⟨?_, Value.restoreEntries_distinct t restored unique.2 read⟩
  unfold Assoc.keys
  rw [Value.restoreEntries_keys read]
  exact unique.1

theorem readDocument_eq_some {text : String} {t : Table} (read : readDocument text = some t) :
    ∃ entries, readEntriesOf text = some entries ∧ Table.restore .document entries = .ok t := by
  unfold readDocument at read
  split at read
  · cases read
  · rename_i entries found
    cases restored : Table.restore .document entries with
    | error e =>
      rw [restored] at read
      cases read
    | ok u =>
      rw [restored] at read
      cases read
      exact ⟨entries, found, restored⟩

theorem readDocument_distinct {text : String} {t : Table} (read : readDocument text = some t) :
    t.Distinct := by
  obtain ⟨entries, found, restored⟩ := readDocument_eq_some read
  exact Table.restore_distinct (readEntriesOf_distinct found) restored

/-! ### Tables that begin with the marker -/

mutual

/-- No table inside the value begins with the marker. -/
def Value.Unmarked : Value → Prop
  | .array items => Value.AllUnmarked items
  | .table entries =>
    (∀ value rest, entries ≠ (datetimeMarker, value) :: rest) ∧ Table.ValuesUnmarked entries
  | _ => True

/-- No table inside one of the values begins with the marker. -/
def Value.AllUnmarked : List Value → Prop
  | [] => True
  | item :: items => item.Unmarked ∧ Value.AllUnmarked items

/-- No table inside one of the entries begins with the marker. -/
def Table.ValuesUnmarked : List (String × Value) → Prop
  | [] => True
  | (_, value) :: rest => value.Unmarked ∧ Table.ValuesUnmarked rest

end

theorem Table.valuesUnmarked_iff {entries : List (String × Value)} :
    Table.ValuesUnmarked entries ↔ ∀ entry ∈ entries, entry.2.Unmarked := by
  induction entries with
  | nil => simp [Table.ValuesUnmarked]
  | cons entry rest ih =>
    obtain ⟨key, value⟩ := entry
    rw [Table.ValuesUnmarked, ih, List.forall_mem_cons]

mutual

theorem Value.restore_unmarked {origin : Provenance} :
    ∀ value restored : Value, value.restore origin = .ok restored → restored.Unmarked
  | .array items, restored, read => by
    obtain ⟨more, inner, rfl⟩ := Value.restore_array_ok read
    exact Value.restoreItems_unmarked items more inner
  | .table entries, restored, read => by
    rcases Value.restore_table_ok read with ⟨d, rfl⟩ | ⟨plain, more, inner, rfl⟩
    · trivial
    · refine ⟨?_, Value.restoreEntries_unmarked entries more inner⟩
      rintro value rest rfl
      have order := Value.restoreEntries_keys inner
      cases entries with
      | nil => cases order
      | cons entry others =>
        obtain ⟨key, first⟩ := entry
        obtain ⟨rfl, _⟩ : datetimeMarker = key ∧ _ := List.cons.inj order
        exact plain first others rfl
  | .datetime d, restored, read => by
    cases origin with
    | document =>
      cases read
      trivial
    | merged =>
      cases read
      trivial
  | .string _, _, read => by
    cases read
    trivial
  | .integer _, _, read => by
    cases read
    trivial
  | .float _, _, read => by
    cases read
    trivial
  | .boolean _, _, read => by
    cases read
    trivial

theorem Value.restoreItems_unmarked {origin : Provenance} :
    ∀ items restored : List Value, Value.restoreItems origin items = .ok restored →
      Value.AllUnmarked restored
  | [], _, read => by
    cases read
    trivial
  | item :: items, restored, read => by
    obtain ⟨first, more, here, there, rfl⟩ := Value.restoreItems_cons_ok read
    exact ⟨Value.restore_unmarked item first here, Value.restoreItems_unmarked items more there⟩

theorem Value.restoreEntries_unmarked {origin : Provenance} :
    ∀ entries restored : List (String × Value), Value.restoreEntries origin entries = .ok restored →
      Table.ValuesUnmarked restored
  | [], _, read => by
    cases read
    trivial
  | (key, value) :: rest, restored, read => by
    obtain ⟨first, more, here, there, rfl⟩ := Value.restoreEntries_cons_ok read
    exact ⟨Value.restore_unmarked value first here, Value.restoreEntries_unmarked rest more there⟩

end

/-- No table inside a document begins with the marker: such a table was read as a datetime. -/
theorem readDocument_unmarked {text : String} {t : Table} (read : readDocument text = some t) :
    Table.ValuesUnmarked t := by
  obtain ⟨entries, _, restored⟩ := readDocument_eq_some read
  exact Value.restoreEntries_unmarked entries t restored

/-! ### Datetimes as text -/

mutual

/-- The value with every datetime in it put as its text. -/
def Value.textual : Value → Value
  | .datetime d => .string d.written
  | .array items => .array (Value.textualItems items)
  | .table entries => .table (Table.textual entries)
  | value => value

def Value.textualItems : List Value → List Value
  | [] => []
  | item :: items => item.textual :: Value.textualItems items

/-- The entries with every datetime in them put as its text. -/
def Table.textual : List (String × Value) → List (String × Value)
  | [] => []
  | (key, value) :: rest => (key, value.textual) :: Table.textual rest

end

mutual

theorem Value.restore_merged : ∀ value : Value, value.Unmarked →
    value.restore .merged = .ok value.textual
  | .array items, fine => by
    rw [Value.restore, Value.restoreItems_merged items fine]
    rfl
  | .table entries, fine => by
    rw [Value.restore_table fine.1, Value.restoreEntries_merged entries fine.2]
    rfl
  | .datetime _, _ => rfl
  | .string _, _ => rfl
  | .integer _, _ => rfl
  | .float _, _ => rfl
  | .boolean _, _ => rfl

theorem Value.restoreItems_merged : ∀ items : List Value, Value.AllUnmarked items →
    Value.restoreItems .merged items = .ok (Value.textualItems items)
  | [], _ => rfl
  | item :: items, fine => by
    rw [Value.restoreItems, Value.restore_merged item fine.1, Value.restoreItems_merged items fine.2]
    rfl

theorem Value.restoreEntries_merged : ∀ entries : List (String × Value),
    Table.ValuesUnmarked entries →
      Value.restoreEntries .merged entries = .ok (Table.textual entries)
  | [], _ => rfl
  | (key, value) :: rest, fine => by
    rw [Value.restoreEntries, Value.restore_merged value fine.1,
      Value.restoreEntries_merged rest fine.2]
    rfl

end

/-- Of a merged table in which none begins with the marker, datetimes become text and nothing else
changes. -/
theorem Table.restore_merged {t : Table} (plain : Table.ValuesUnmarked t) :
    t.restore .merged = .ok (Table.textual t) :=
  Value.restoreEntries_merged t plain

theorem Table.textual_eq_map (t : Table) :
    Table.textual t = t.map fun entry => (entry.1, entry.2.textual) := by
  induction t with
  | nil => rfl
  | cons entry rest ih =>
    obtain ⟨key, value⟩ := entry
    rw [Table.textual, ih, List.map_cons]

theorem Table.keys_textual (t : Table) : Assoc.keys (Table.textual t) = Assoc.keys t := by
  rw [Table.textual_eq_map, Assoc.keys, List.map_map]
  rfl

theorem Table.get?_textual (t : Table) (key : String) :
    Assoc.get? (Table.textual t) key = (Assoc.get? t key).map Value.textual := by
  induction t with
  | nil => rfl
  | cons entry rest ih =>
    obtain ⟨k, value⟩ := entry
    rw [Table.textual, Assoc.get?_cons, Assoc.get?_cons, ih]
    split
    · rfl
    · rfl

end InlineVariables.Toml
