import InlineVariables.Proofs.Toml.Merge
import InlineVariables.Proofs.Toml.Restoration

/-!
Properties of keys at any depth of a value. A merge brings no key that neither of its tables has
(`Entry.mergeAll_everyKey`). Without the marker among the keys, a merged table is restored as it is but
for its datetimes (`Table.restore_of_everyKey`).
-/

namespace InlineVariables.Toml

variable {p : String → Prop}

mutual

/-- Every key of a table inside the value has the property. -/
def Value.EveryKey (p : String → Prop) : Value → Prop
  | .array items => Value.EveryItemKey p items
  | .table entries => Table.EveryKey p entries
  | _ => True

def Value.EveryItemKey (p : String → Prop) : List Value → Prop
  | [] => True
  | item :: items => item.EveryKey p ∧ Value.EveryItemKey p items

/-- Every key of the table and of a table inside it has the property. -/
def Table.EveryKey (p : String → Prop) : List (String × Value) → Prop
  | [] => True
  | (key, value) :: rest => p key ∧ value.EveryKey p ∧ Table.EveryKey p rest

end

namespace Table

theorem everyKey_iff {t : Table} :
    Table.EveryKey p t ↔ ∀ entry ∈ t, p entry.1 ∧ entry.2.EveryKey p := by
  induction t with
  | nil => simp [EveryKey]
  | cons entry rest ih =>
    obtain ⟨key, value⟩ := entry
    rw [EveryKey, ih, List.forall_mem_cons, and_assoc]

theorem EveryKey.nil : Table.EveryKey p [] :=
  trivial

theorem EveryKey.get? {t : Table} (every : Table.EveryKey p t) {key : String} {value : Value}
    (found : Assoc.get? t key = some value) : value.EveryKey p :=
  (everyKey_iff.1 every _ (Assoc.mem_of_get? found)).2

theorem EveryKey.insert {t : Table} (every : Table.EveryKey p t) {key : String} {value : Value}
    (own : p key) (inner : value.EveryKey p) : Table.EveryKey p (Assoc.insert t key value) := by
  induction t with
  | nil => exact ⟨own, inner, trivial⟩
  | cons entry rest ih =>
    obtain ⟨k, v⟩ := entry
    obtain ⟨first, here, others⟩ := every
    rw [Assoc.insert]
    split
    · exact ⟨first, inner, others⟩
    · exact ⟨first, here, ih others⟩

end Table

/-! ### Merges -/

mutual

theorem Value.over_everyKey : ∀ (old : Option Value) (value : Value),
    (∀ before, old = some before → before.EveryKey p) → value.EveryKey p →
      (value.over old).EveryKey p
  | old, .table entries, there, inner => by
    rw [Value.over_table]
    split
    · exact Table.merge_everyKey _ entries (there _ rfl) inner
    · exact inner
  | _, .string _, _, inner => inner
  | _, .integer _, _, inner => inner
  | _, .float _, _, inner => inner
  | _, .boolean _, _, inner => inner
  | _, .datetime _, _, inner => inner
  | _, .array _, _, inner => inner

theorem Table.merge_everyKey : ∀ (t : Table) (entries : List (String × Value)),
    Table.EveryKey p t → Table.EveryKey p entries → Table.EveryKey p (Table.merge t entries)
  | _, [], every, _ => every
  | t, (key, value) :: rest, every, ⟨own, inner, others⟩ => by
    have laid := Value.over_everyKey (Assoc.get? t key) value (fun _ found => every.get? found) inner
    exact Table.merge_everyKey _ rest (every.insert own laid) others

end

theorem Value.under_everyKey {path : List String} {value : Value} (own : ∀ key ∈ path, p key)
    (inner : value.EveryKey p) : (value.under path).EveryKey p := by
  induction path with
  | nil => exact inner
  | cons key path ih =>
    obtain ⟨first, others⟩ := List.forall_mem_cons.1 own
    exact ⟨first, ih others, trivial⟩

end InlineVariables.Toml

namespace InlineVariables.Entry

open Toml (Table Value)

variable {p : String → Prop}

/-- Every key that the entry brings has the property. -/
def EveryKey (p : String → Prop) (entry : Entry) : Prop :=
  (∀ key ∈ entry.path, p key) ∧ entry.value.EveryKey p

theorem overlay_everyKey {entry : Entry} (every : entry.EveryKey p) :
    Table.EveryKey p entry.overlay := by
  have under := Value.under_everyKey every.1 every.2
  unfold overlay Table.overlay Value.base
  split
  · rename_i entries shape
    rw [Option.some.inj shape] at under
    exact under
  · trivial

theorem mergeAll_everyKey {t : Table} {entries : List Entry} (every : Table.EveryKey p t)
    (others : ∀ entry ∈ entries, entry.EveryKey p) : Table.EveryKey p (mergeAll t entries) := by
  rw [mergeAll_eq_merge]
  apply Table.merge_everyKey t _ every
  rw [Table.everyKey_iff]
  intro laid member
  obtain ⟨entry, given, inner⟩ := List.mem_flatMap.1 member
  exact Table.everyKey_iff.1 (overlay_everyKey (others entry given)) laid inner

end InlineVariables.Entry

/-! ### Restoring -/

namespace InlineVariables.Toml

mutual

theorem Value.unmarked_of_everyKey : ∀ value : Value, value.EveryKey (· ≠ datetimeMarker) →
    value.Unmarked
  | .array items, every => Value.allUnmarked_of_everyKey items every
  | .table entries, every => by
    refine ⟨?_, Table.valuesUnmarked_of_everyKey entries every⟩
    rintro value rest rfl
    exact every.1 rfl
  | .string _, _ => trivial
  | .integer _, _ => trivial
  | .float _, _ => trivial
  | .boolean _, _ => trivial
  | .datetime _, _ => trivial

theorem Value.allUnmarked_of_everyKey : ∀ items : List Value,
    Value.EveryItemKey (· ≠ datetimeMarker) items → Value.AllUnmarked items
  | [], _ => trivial
  | item :: items, ⟨first, others⟩ =>
    ⟨Value.unmarked_of_everyKey item first, Value.allUnmarked_of_everyKey items others⟩

theorem Table.valuesUnmarked_of_everyKey : ∀ entries : List (String × Value),
    Table.EveryKey (· ≠ datetimeMarker) entries → Table.ValuesUnmarked entries
  | [], _ => trivial
  | (_, value) :: rest, ⟨_, inner, others⟩ =>
    ⟨Value.unmarked_of_everyKey value inner, Table.valuesUnmarked_of_everyKey rest others⟩

end

theorem Table.restore_of_everyKey {t : Table} (every : Table.EveryKey (· ≠ datetimeMarker) t) :
    t.restore .merged = .ok (Table.textual t) :=
  Table.restore_merged (Table.valuesUnmarked_of_everyKey t every)

end InlineVariables.Toml
