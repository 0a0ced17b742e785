import InlineVariables.Proofs.Toml.Merge
import InlineVariables.Proofs.Toml.Restoration

/-!
Tables that differ in the order of their keys only, at any level (`Value.Reordered`). Merges keep them so.
Entries commute up to the order of keys when neither path leads to the other, so a list of such entries
may be merged in any order (`Entry.mergeAll_reordered`).
-/

namespace InlineVariables.Toml

/-- The same value but for the order of keys in a table and in the tables under its keys. -/
inductive Value.Reordered : Value → Value → Prop
  | refl (value : Value) : Value.Reordered value value
  | table {a b : Table} (keys : (Assoc.keys a).Perm (Assoc.keys b))
    (values : ∀ key x y, Assoc.get? a key = some x → Assoc.get? b key = some y →
      Value.Reordered x y) : Value.Reordered (.table a) (.table b)

/-- The same table but for the order of keys, at any level. -/
def Table.Reordered (a b : Table) : Prop :=
  Value.Reordered (.table a) (.table b)

namespace Value.Reordered

theorem trans {a b c : Value} (first : Reordered a b) (second : Reordered b c) : Reordered a c := by
  induction first generalizing c with
  | refl value => exact second
  | @table t u keys values ih =>
    cases second with
    | refl => exact .table keys values
    | @table _ v keys' values' =>
      refine .table (keys.trans keys') ?_
      intro key x z here there
      cases middle : Assoc.get? u key with
      | none =>
        have absent := Assoc.get?_eq_none_iff.1 middle
        have present : key ∈ Assoc.keys t := List.mem_map_of_mem (Assoc.mem_of_get? here)
        exact absurd (keys.mem_iff.1 present) absent
      | some y => exact ih key x y here middle (values' key y z middle there)

end Value.Reordered

namespace Table

theorem reordered_iff {a b : Table} :
    a.Reordered b ↔ (Assoc.keys a).Perm (Assoc.keys b) ∧
      ∀ key x y, Assoc.get? a key = some x → Assoc.get? b key = some y → x.Reordered y := by
  constructor
  · intro same
    cases same with
    | refl =>
      refine ⟨.refl _, ?_⟩
      intro key x y here there
      rw [Option.some.inj (here.symm.trans there)]
      exact .refl y
    | table keys values => exact ⟨keys, values⟩
  · rintro ⟨keys, values⟩
    exact .table keys values

namespace Reordered

theorem refl (t : Table) : t.Reordered t :=
  Value.Reordered.refl _

variable {a b : Table}

theorem keys (same : a.Reordered b) : (Assoc.keys a).Perm (Assoc.keys b) :=
  (reordered_iff.1 same).1

theorem contains_eq (same : a.Reordered b) (key : String) :
    Assoc.contains a key = Assoc.contains b key := by
  rw [Bool.eq_iff_iff, Assoc.contains_iff, Assoc.contains_iff]
  exact same.keys.mem_iff

theorem get?_some (same : a.Reordered b) {key : String} {x : Value}
    (found : Assoc.get? a key = some x) : ∃ y, Assoc.get? b key = some y ∧ x.Reordered y := by
  have there : Assoc.contains b key = true := by
    rw [← same.contains_eq, Assoc.contains, found]
    rfl
  obtain ⟨y, found'⟩ := Option.isSome_iff_exists.1 there
  exact ⟨y, found', (reordered_iff.1 same).2 key x y found found'⟩

theorem get?_none (same : a.Reordered b) {key : String} (absent : Assoc.get? a key = none) :
    Assoc.get? b key = none := by
  have gone : Assoc.contains b key = false := by
    rw [← same.contains_eq, Assoc.contains, absent]
    rfl
  exact Option.isNone_iff_eq_none.1 (Option.isSome_eq_false_iff.1 gone)

theorem insert (same : a.Reordered b) (key : String) {x y : Value} (values : x.Reordered y) :
    Table.Reordered (Assoc.insert a key x) (Assoc.insert b key y) := by
  refine reordered_iff.2 ⟨?_, ?_⟩
  · cases present : Assoc.contains a key with
    | true =>
      rw [Assoc.keys_insert_of_contains x present,
        Assoc.keys_insert_of_contains y (same.contains_eq key ▸ present)]
      exact same.keys
    | false =>
      rw [Assoc.keys_insert_of_not_contains x present,
        Assoc.keys_insert_of_not_contains y (same.contains_eq key ▸ present)]
      exact same.keys.append_right [key]
  · intro other v w here there
    rw [Assoc.get?_insert] at here there
    by_cases own : key = other
    · rw [if_pos own] at here there
      cases here
      cases there
      exact values
    · rw [if_neg own] at here there
      exact (reordered_iff.1 same).2 other v w here there

theorem length_eq (same : a.Reordered b) : a.length = b.length := by
  simpa [Assoc.keys] using same.keys.length_eq

end Reordered
end Table

/-! ### Merges -/

mutual

theorem Value.over_reordered : ∀ (value : Value) {x y : Value}, x.Reordered y →
    (value.over (some x)).Reordered (value.over (some y))
  | .table entries, x, y, same => by
    cases same with
    | refl => exact .refl _
    | table keys values => exact Table.merge_reordered entries (.table keys values)
  | .string _, _, _, _ => .refl _
  | .integer _, _, _, _ => .refl _
  | .float _, _, _, _ => .refl _
  | .boolean _, _, _, _ => .refl _
  | .datetime _, _, _, _ => .refl _
  | .array _, _, _, _ => .refl _

theorem Table.merge_reordered : ∀ (entries : List (String × Value)) {a b : Table}, a.Reordered b →
    (Table.merge a entries).Reordered (Table.merge b entries)
  | [], _, _, same => same
  | (key, value) :: rest, a, b, same => by
    apply Table.merge_reordered rest
    apply same.insert
    cases found : Assoc.get? a key with
    | none =>
      rw [same.get?_none found]
      exact .refl _
    | some x =>
      obtain ⟨y, found', values⟩ := same.get?_some found
      rw [found']
      exact Value.over_reordered value values

end

namespace Table

theorem insert_insert_reordered (t : Table) {key other : String} (different : key ≠ other)
    (x y : Value) :
    Table.Reordered (Assoc.insert (Assoc.insert t key x) other y)
      (Assoc.insert (Assoc.insert t other y) key x) := by
  refine reordered_iff.2 ⟨?_, ?_⟩
  · rw [Assoc.keys_insert, Assoc.keys_insert, Assoc.keys_insert, Assoc.keys_insert,
      Assoc.contains_insert_other t x different, Assoc.contains_insert_other t y (Ne.symm different)]
    split
    · exact .refl _
    · split
      · exact .refl _
      · rw [List.append_assoc, List.append_assoc]
        exact (List.Perm.swap other key []).append_left _
  · intro k v w here there
    rw [Assoc.get?_insert, Assoc.get?_insert] at here there
    by_cases first : other = k
    · rw [if_pos first] at here there
      rw [if_neg fun same => different (same.trans first.symm)] at there
      rw [Option.some.inj (here.symm.trans there)]
      exact .refl w
    · rw [if_neg first] at here there
      rw [Option.some.inj (here.symm.trans there)]
      exact .refl w

/-- Values at paths of which neither leads to the other may be laid in either order. -/
theorem mergeAt_comm (t : Table) {p q : List String} (before : ¬ p <+: q) (after : ¬ q <+: p)
    (v w : Value) :
    Table.Reordered ((t.mergeAt p v).mergeAt q w) ((t.mergeAt q w).mergeAt p v) := by
  induction p generalizing t q with
  | nil => exact absurd List.nil_prefix before
  | cons key p ih =>
    cases q with
    | nil => exact absurd List.nil_prefix after
    | cons other q =>
      by_cases same : key = other
      · -- Under one key both paths go on, into the table that is there or is made there.
        subst same
        rw [List.prefix_cons_inj] at before after
        cases p with
        | nil => exact absurd List.nil_prefix before
        | cons next p =>
          cases q with
          | nil => exact absurd List.nil_prefix after
          | cons next' q =>
            simp only [mergeAt, inner_insert_self, Assoc.insert_insert_self]
            exact (Reordered.refl t).insert key (ih (t.inner key) before after)
      · rw [mergeAt_cons, mergeAt_cons, mergeAt_cons, mergeAt_cons,
          Assoc.get?_insert_other t _ same, Assoc.get?_insert_other t _ (Ne.symm same)]
        exact insert_insert_reordered t same _ _

end Table

end InlineVariables.Toml

namespace InlineVariables.Entry

open Toml (Table)

/-- Neither path leads to the other. -/
def Apart (a b : Entry) : Prop :=
  ¬ a.path <+: b.path ∧ ¬ b.path <+: a.path

theorem Apart.symm {a b : Entry} (apart : a.Apart b) : b.Apart a :=
  ⟨apart.2, apart.1⟩

theorem mergeInto_reordered {a b : Table} (same : a.Reordered b) (entry : Entry) :
    (mergeInto a entry).Reordered (mergeInto b entry) := by
  rw [mergeInto, mergeInto, Table.mergeAt_eq_merge, Table.mergeAt_eq_merge]
  exact Table.merge_reordered _ same

theorem mergeAll_congr {a b : Table} (same : a.Reordered b) (entries : List Entry) :
    (mergeAll a entries).Reordered (mergeAll b entries) := by
  induction entries generalizing a b with
  | nil => exact same
  | cons entry rest ih => exact ih (mergeInto_reordered same entry)

theorem mergeAll_reordered {first second : List Entry} (permuted : first.Perm second)
    (apart : first.Pairwise Apart) {a b : Table} (same : a.Reordered b) :
    (mergeAll a first).Reordered (mergeAll b second) := by
  induction permuted generalizing a b with
  | nil => exact same
  | cons entry _ ih =>
    rw [mergeAll_cons, mergeAll_cons]
    exact ih (List.pairwise_cons.1 apart).2 (mergeInto_reordered same entry)
  | swap x y rest =>
    obtain ⟨here, _⟩ := List.pairwise_cons.1 apart
    have separate : y.Apart x := here x List.mem_cons_self
    have swapped : (mergeInto (mergeInto a y) x).Reordered (mergeInto (mergeInto a x) y) :=
      Table.mergeAt_comm a separate.1 separate.2 y.value x.value
    have carried := mergeInto_reordered (mergeInto_reordered same x) y
    exact mergeAll_congr (Toml.Value.Reordered.trans swapped carried) rest
  | trans first' _ ih ih' =>
    have still := (first'.pairwise_iff Apart.symm).1 apart
    exact Toml.Value.Reordered.trans (ih apart same) (ih' still (Table.Reordered.refl b))

end InlineVariables.Entry

namespace InlineVariables.Toml

theorem Value.Reordered.textual {a b : Value} (same : a.Reordered b) :
    a.textual.Reordered b.textual := by
  induction same with
  | refl value => exact .refl _
  | @table t u keys values ih =>
    refine Table.reordered_iff.2 ⟨?_, ?_⟩
    · rw [Table.keys_textual, Table.keys_textual]
      exact keys
    · intro key x y here there
      rw [Table.get?_textual] at here there
      obtain ⟨v, found, rfl⟩ := Option.map_eq_some_iff.1 here
      obtain ⟨w, found', rfl⟩ := Option.map_eq_some_iff.1 there
      exact ih key v w found found'

end InlineVariables.Toml
