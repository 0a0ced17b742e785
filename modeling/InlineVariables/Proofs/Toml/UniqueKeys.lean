import InlineVariables.Toml.Document
import InlineVariables.Toml.Merge

/-!
No operation on tables repeats a key: insertions, merges, and the reading of documents keep the keys
of every table distinct. Main statements: `Table.merge_distinct` and `readEntriesOf_distinct`.
-/

namespace InlineVariables.Toml

theorem Table.valuesDistinct_iff {entries : List (String × Value)} :
    Table.ValuesDistinct entries ↔ ∀ entry ∈ entries, entry.2.Distinct := by
  induction entries with
  | nil => simp [Table.ValuesDistinct]
  | cons entry rest ih =>
    obtain ⟨key, value⟩ := entry
    rw [Table.ValuesDistinct, ih, List.forall_mem_cons]

namespace Table

theorem Distinct.nil : Table.Distinct [] :=
  ⟨List.nodup_nil, trivial⟩

theorem Distinct.get? {t : Table} (unique : t.Distinct) {key : String} {value : Value}
    (found : Assoc.get? t key = some value) : value.Distinct :=
  valuesDistinct_iff.1 unique.2 _ (Assoc.mem_of_get? found)

theorem valuesDistinct_insert {t : Table} (unique : ValuesDistinct t) (key : String) {value : Value}
    (fine : value.Distinct) : ValuesDistinct (Assoc.insert t key value) := by
  induction t with
  | nil => exact ⟨fine, trivial⟩
  | cons entry rest ih =>
    obtain ⟨k, v⟩ := entry
    obtain ⟨first, others⟩ := unique
    rw [Assoc.insert]
    split
    · exact ⟨fine, others⟩
    · exact ⟨first, ih others⟩

theorem Distinct.insert {t : Table} (unique : t.Distinct) (key : String) {value : Value}
    (fine : value.Distinct) : Table.Distinct (Assoc.insert t key value) :=
  ⟨Assoc.nodup_insert unique.1 key value, valuesDistinct_insert unique.2 key fine⟩

theorem Distinct.erase {t : Table} (unique : t.Distinct) (key : String) :
    Table.Distinct (Assoc.erase t key) := by
  have part : (Assoc.erase t key).Sublist t := Assoc.erase_sublist t key
  refine ⟨unique.1.sublist (part.map _), valuesDistinct_iff.2 fun entry member => ?_⟩
  exact valuesDistinct_iff.1 unique.2 entry (part.mem member)

end Table

/-! ### Merges -/

theorem Value.over_table (old : Option Value) (entries : List (String × Value)) :
    (Value.table entries).over old =
      match old with
      | some (.table base) => .table (Table.merge base entries)
      | _ => .table entries := rfl

mutual

theorem Value.over_distinct :
    ∀ (old : Option Value) (value : Value), (∀ before, old = some before → before.Distinct) →
      value.Distinct → (value.over old).Distinct
  | old, .table entries, there, fine => by
    rw [Value.over_table]
    split
    · exact Table.merge_distinct _ entries (there _ rfl) fine.2
    · exact fine
  | _, .string _, _, fine => fine
  | _, .integer _, _, fine => fine
  | _, .float _, _, fine => fine
  | _, .boolean _, _, fine => fine
  | _, .datetime _, _, fine => fine
  | _, .array _, _, fine => fine

theorem Table.merge_distinct :
    ∀ (t : Table) (entries : List (String × Value)), t.Distinct → Table.ValuesDistinct entries →
      (Table.merge t entries).Distinct
  | _, [], unique, _ => unique
  | t, (key, value) :: rest, unique, fine => by
    have laid := Value.over_distinct (Assoc.get? t key) value (fun _ found => unique.get? found) fine.1
    exact Table.merge_distinct _ rest (unique.insert key laid) fine.2

end

/-! ### Tables under construction -/

/-- No key will be repeated when the table is finished. -/
def OpenTable.Distinct (t : OpenTable) : Prop :=
  Table.Distinct (OpenTable.close t)

namespace OpenTable

theorem close_insert (t : OpenTable) (key : String) (node : OpenNode) :
    close (Assoc.insert t key node) = Assoc.insert (close t) key node.close := by
  induction t with
  | nil => rfl
  | cons entry rest ih =>
    obtain ⟨k, n⟩ := entry
    by_cases same : k = key
    · simp [Assoc.insert, close, same]
    · simp [Assoc.insert, close, same, ih]

theorem close_erase (t : OpenTable) (key : String) :
    close (Assoc.erase t key) = Assoc.erase (close t) key := by
  induction t with
  | nil => rfl
  | cons entry rest ih =>
    obtain ⟨k, n⟩ := entry
    by_cases same : k = key
    · simp [Assoc.erase, close, same]
    · simp [Assoc.erase, close, same, ih]

theorem get?_close (t : OpenTable) (key : String) :
    Assoc.get? (close t) key = (Assoc.get? t key).map OpenNode.close := by
  induction t with
  | nil => rfl
  | cons entry rest ih =>
    obtain ⟨k, n⟩ := entry
    by_cases same : k = key
    · simp [Assoc.get?, close, same]
    · simp [Assoc.get?, close, same, ih]

theorem allDistinct_closeAll {earlier : List (List (String × OpenNode))} {others : List Value} :
    Value.AllDistinct (closeAll earlier others) ↔
      (∀ entries ∈ earlier, OpenTable.Distinct entries) ∧ Value.AllDistinct others := by
  induction earlier generalizing others with
  | nil => simp [closeAll]
  | cons entries rest ih =>
    rw [closeAll, ih, List.forall_mem_cons, Value.AllDistinct]
    exact ⟨fun ⟨a, b, c⟩ => ⟨⟨b, a⟩, c⟩, fun ⟨⟨b, a⟩, c⟩ => ⟨a, b, c⟩⟩

theorem close_tables_distinct {current : List (String × OpenNode)}
    {earlier : List (List (String × OpenNode))} :
    (OpenNode.tables current earlier).close.Distinct ↔
      (∀ entries ∈ earlier, OpenTable.Distinct entries) ∧ OpenTable.Distinct current := by
  change Value.AllDistinct (closeAll earlier [.table (close current)]) ↔ _
  rw [allDistinct_closeAll]
  exact and_congr_right fun _ => and_iff_left trivial

theorem Distinct.nil : OpenTable.Distinct [] :=
  Table.Distinct.nil

theorem Distinct.get? {t : OpenTable} (unique : t.Distinct) {key : String} {node : OpenNode}
    (found : Assoc.get? t key = some node) : node.close.Distinct := by
  have closed : Assoc.get? (close t) key = some node.close := by
    rw [get?_close, found]
    rfl
  exact Table.Distinct.get? unique closed

theorem Distinct.insert {t : OpenTable} (unique : t.Distinct) (key : String) {node : OpenNode}
    (fine : node.close.Distinct) : OpenTable.Distinct (Assoc.insert t key node) := by
  unfold OpenTable.Distinct
  rw [close_insert]
  exact Table.Distinct.insert unique key fine

theorem Distinct.erase {t : OpenTable} (unique : t.Distinct) (key : String) :
    OpenTable.Distinct (Assoc.erase t key) := by
  unfold OpenTable.Distinct
  rw [close_erase]
  exact Table.Distinct.erase unique key

/-- A change deep inside keeps keys distinct, when it does so in the table that it is made in. -/
theorem alter_distinct {dotted : Bool} {change : Origin → OpenTable → Option OpenTable}
    (keeps : ∀ origin t u, t.Distinct → change origin t = some u → u.Distinct) {origin : Origin}
    {path : List String} {t u : OpenTable} (unique : t.Distinct)
    (altered : alter dotted change origin path t = some u) : u.Distinct := by
  induction path generalizing origin t u with
  | nil => exact keeps origin t u unique altered
  | cons key path ih =>
    rw [alter] at altered
    split at altered
    · obtain ⟨inner, made, rfl⟩ := Option.map_eq_some_iff.1 altered
      have fine : OpenTable.Distinct inner := ih Distinct.nil made
      exact unique.insert key fine
    · cases altered
    · rename_i origin inner found
      split at altered
      · cases altered
      · obtain ⟨inner, made, rfl⟩ := Option.map_eq_some_iff.1 altered
        have fine : OpenTable.Distinct inner := ih (unique.get? found) made
        exact unique.insert key fine
    · rename_i current earlier found
      obtain ⟨current, made, rfl⟩ := Option.map_eq_some_iff.1 altered
      obtain ⟨others, last⟩ := close_tables_distinct.1 (unique.get? found)
      exact unique.insert key (close_tables_distinct.2 ⟨others, ih last made⟩)

theorem addEntry_distinct {t u : OpenTable} {path : KeyPath} {value : Value} (unique : t.Distinct)
    (fine : value.Distinct) (added : t.addEntry path value = some u) : u.Distinct := by
  refine alter_distinct ?_ unique added
  intro origin inner after unique changed
  split at changed
  · cases changed
    exact unique.insert path.key fine
  · cases changed

theorem openTable_distinct {t u : OpenTable} {path : KeyPath} (unique : t.Distinct)
    (opened : t.openTable path = some u) : u.Distinct := by
  refine alter_distinct ?_ unique opened
  intro origin inner after unique changed
  split at changed
  · cases changed
    exact unique.insert path.key Distinct.nil
  · rename_i entries found
    cases changed
    have fine : OpenTable.Distinct entries := unique.get? found
    exact (unique.erase path.key).insert path.key fine
  · cases changed

theorem openElement_distinct {t u : OpenTable} {path : KeyPath} (unique : t.Distinct)
    (opened : t.openElement path = some u) : u.Distinct := by
  refine alter_distinct ?_ unique opened
  intro origin inner after unique changed
  split at changed
  · cases changed
    exact unique.insert path.key (close_tables_distinct.2 ⟨nofun, Distinct.nil⟩)
  · rename_i current earlier found
    cases changed
    obtain ⟨others, last⟩ := close_tables_distinct.1 (unique.get? found)
    refine unique.insert path.key (close_tables_distinct.2 ⟨?_, Distinct.nil⟩)
    exact List.forall_mem_cons.2 ⟨last, others⟩
  · cases changed

theorem addEntries_distinct {t u : OpenTable} {entries : List (KeyPath × Value)}
    (unique : t.Distinct) (fine : ∀ entry ∈ entries, entry.2.Distinct)
    (added : t.addEntries entries = some u) : u.Distinct := by
  induction entries generalizing t with
  | nil =>
    cases added
    exact unique
  | cons entry rest ih =>
    obtain ⟨path, value⟩ := entry
    obtain ⟨first, others⟩ := List.forall_mem_cons.1 fine
    rw [addEntries] at added
    split at added
    · rename_i after step
      exact ih (addEntry_distinct unique first step) others added
    · cases added

end OpenTable

/-! ### Readers -/

/-- A reader gives values without repeated keys. -/
def Reader.Distinct (item : Reader Value) : Prop :=
  ∀ text value rest, item text = some (value, rest) → value.Distinct

section

variable {item : Reader Value} {text rest : List Char}

theorem readItems_distinct (fine : item.Distinct) {values : List Value}
    (read : readItems item text = some (values, rest)) : Value.AllDistinct values := by
  induction size : text.length using Nat.strongRecOn generalizing text values rest with
  | ind n ih =>
    rw [readItems] at read
    split at read
    · cases read
    · cases read
      trivial
    · split at read
      · cases read
      · rename_i value after first
        split at read
        · cases read
          exact ⟨fine _ _ _ first, trivial⟩
        · split at read
          · rename_i shorter
            obtain ⟨⟨more, tail⟩, later, same⟩ := Option.map_eq_some_iff.1 read
            cases same
            exact ⟨fine _ _ _ first, ih _ (size ▸ shorter) later rfl⟩
          · cases read
        · cases read

theorem readEntry_distinct (fine : item.Distinct) {entry : KeyPath × Value}
    (read : readEntry item text = some (entry, rest)) : entry.2.Distinct := by
  unfold readEntry at read
  split at read
  · obtain ⟨⟨value, after⟩, found, same⟩ := Option.map_eq_some_iff.1 read
    cases same
    exact fine _ _ _ found
  · cases read

theorem readEntries_distinct (fine : item.Distinct) {entries : List (KeyPath × Value)}
    (read : readEntries item text = some (entries, rest)) :
    ∀ entry ∈ entries, entry.2.Distinct := by
  induction size : text.length using Nat.strongRecOn generalizing text entries rest with
  | ind n ih =>
    rw [readEntries] at read
    split at read
    · rename_i entry after first
      cases read
      exact List.forall_mem_singleton.2 (readEntry_distinct fine first)
    · rename_i entry after first
      split at read
      · rename_i shorter
        obtain ⟨⟨more, tail⟩, later, same⟩ := Option.map_eq_some_iff.1 read
        cases same
        have others := ih _ (size ▸ shorter) later rfl
        exact List.forall_mem_cons.2 ⟨readEntry_distinct fine first, others⟩
      · cases read
    · cases read

theorem readInlineTable_distinct (fine : item.Distinct) {value : Value}
    (read : readInlineTable item text = some (value, rest)) : value.Distinct := by
  unfold readInlineTable at read
  split at read
  · cases read
    exact Table.Distinct.nil
  · split at read
    · cases read
    · rename_i entries after found
      obtain ⟨t, added, same⟩ := Option.map_eq_some_iff.1 read
      cases same
      exact OpenTable.addEntries_distinct .nil (readEntries_distinct fine found) added

theorem readNumber_distinct {value : Value} (read : readNumber text = some (value, rest)) :
    value.Distinct := by
  unfold readNumber at read
  split at read
  · cases read
    trivial
  · split at read
    · cases read
      trivial
    · obtain ⟨_, _, same⟩ := Option.map_eq_some_iff.1 read
      cases same
      trivial

theorem readBoolean_distinct {value : Value} (read : readBoolean text = some (value, rest)) :
    value.Distinct := by
  unfold readBoolean at read
  split at read
  · cases read
    trivial
  · obtain ⟨_, _, same⟩ := Option.map_eq_some_iff.1 read
    cases same
    trivial

theorem readValueWith_distinct {inner? : Option (Reader Value)}
    (fine : ∀ inner, inner? = some inner → inner.Distinct) : (readValueWith inner?).Distinct := by
  intro text value rest read
  unfold readValueWith at read
  split at read
  · cases read
  · split at read
    · obtain ⟨_, _, same⟩ := Option.map_eq_some_iff.1 read
      cases same
      trivial
    · split at read
      · split at read
        · obtain ⟨⟨values, after⟩, found, same⟩ := Option.map_eq_some_iff.1 read
          cases same
          exact readItems_distinct (fine _ rfl) found
        · cases read
      · split at read
        · split at read
          · exact readInlineTable_distinct (fine _ rfl) read
          · cases read
        · split at read
          · rename_i found
            cases read
            exact readBoolean_distinct found
          · exact readNumber_distinct read

theorem readNested_distinct (room : Nat) : (readNested room).Distinct := by
  induction room with
  | zero => exact readValueWith_distinct nofun
  | succ room ih =>
    refine readValueWith_distinct ?_
    rintro inner ⟨⟩
    exact ih

end

/-! ### Documents -/

/-- The value of a line, if it has one, repeats no key. -/
def Line.Distinct : Line → Prop
  | .entry _ value => value.Distinct
  | _ => True

theorem readHeader_distinct {text rest : List Char} {line : Line}
    (read : readHeader text = some (line, rest)) : line.Distinct := by
  unfold readHeader at read
  split at read
  · split at read
    · cases read
      trivial
    · cases read
  · split at read
    · cases read
      trivial
    · cases read

theorem readLine_distinct {text rest : List Char} {line : Line}
    (read : readLine text = some (line, rest)) : line.Distinct := by
  unfold readLine at read
  dsimp only at read
  split at read
  · cases read
  · rename_i found after content
    obtain ⟨_, _, same⟩ := Option.map_eq_some_iff.1 read
    cases same
    split at content
    · exact readHeader_distinct content
    · obtain ⟨⟨⟨path, value⟩, tail⟩, entry, same⟩ := Option.map_eq_some_iff.1 content
      cases same
      exact readEntry_distinct (readNested_distinct _) entry

theorem readLines_distinct {text : List Char} {lines : List Line}
    (read : readLines text = some lines) : ∀ line ∈ lines, line.Distinct := by
  induction size : text.length using Nat.strongRecOn generalizing text lines with
  | ind n ih =>
    rw [readLines] at read
    split at read
    · cases read
      exact fun _ member => absurd member List.not_mem_nil
    · split at read
      · split at read
        · rename_i shorter
          exact ih _ (size ▸ shorter) read rfl
        · cases read
      · split at read
        · rename_i line after found
          split at read
          · rename_i shorter
            obtain ⟨others, later, same⟩ := Option.map_eq_some_iff.1 read
            cases same
            exact List.forall_mem_cons.2 ⟨readLine_distinct found, ih _ (size ▸ shorter) later rfl⟩
          · cases read
        · cases read

namespace Draft

theorem add_distinct {draft after : Draft} {line : Line} (unique : draft.root.Distinct)
    (fine : line.Distinct) (added : draft.add line = some after) : after.root.Distinct := by
  cases line with
  | entry path value =>
    obtain ⟨root, made, rfl⟩ := Option.map_eq_some_iff.1 added
    refine OpenTable.alter_distinct ?_ unique made
    exact fun _ _ _ inner step => OpenTable.addEntry_distinct inner fine step
  | header path =>
    obtain ⟨root, made, rfl⟩ := Option.map_eq_some_iff.1 added
    exact OpenTable.openTable_distinct unique made
  | element path =>
    obtain ⟨root, made, rfl⟩ := Option.map_eq_some_iff.1 added
    exact OpenTable.openElement_distinct unique made

theorem addAll_distinct {draft after : Draft} {lines : List Line} (unique : draft.root.Distinct)
    (fine : ∀ line ∈ lines, line.Distinct) (added : draft.addAll lines = some after) :
    after.root.Distinct := by
  induction lines generalizing draft with
  | nil =>
    cases added
    exact unique
  | cons line lines ih =>
    obtain ⟨first, others⟩ := List.forall_mem_cons.1 fine
    rw [addAll] at added
    split at added
    · rename_i next step
      exact ih (add_distinct unique first step) others added
    · cases added

end Draft

theorem readEntriesOf_distinct {text : String} {t : Table} (read : readEntriesOf text = some t) :
    t.Distinct := by
  unfold readEntriesOf at read
  split at read
  · cases read
  · rename_i lines found
    obtain ⟨draft, made, rfl⟩ := Option.map_eq_some_iff.1 read
    have start : Draft.empty.root.Distinct := .nil
    exact Draft.addAll_distinct start (readLines_distinct found) made

end InlineVariables.Toml
