import InlineVariables.Proofs.Toml.Merge

/-!
What lies at the end of a path of keys, before and after a merge. A value laid over another is seen
path by path (`Value.over_overlaid`); a merge at a path is one value laid over the table, in tables
that hold nothing but the path to it. Main statement: `Table.mergeAt_by_paths`.
-/

namespace InlineVariables.Toml

namespace Value

/-! ### Paths into values -/

@[simp] theorem at?_nil (value : Value) : value.at? [] = some value := by
  rw [at?]

@[simp] theorem at?_table (entries : Table) (key : String) (path : List String) :
    (Value.table entries).at? (key :: path) = (Assoc.get? entries key).bind (·.at? path) := by
  rw [at?]
  cases Assoc.get? entries key <;> rfl

theorem at?_of_not_table {value : Value} (other : value.table? = none) (key : String)
    (path : List String) : value.at? (key :: path) = none := by
  cases value with
  | table entries => cases other
  | _ => rfl

theorem base_at?_of_not_table {value : Value} (other : value.table? = none) (path : List String) :
    base (value.at? path) = [] := by
  cases value with
  | table entries => cases other
  | _ => cases path <;> rfl

/-- A path is followed by following its beginning and then the rest. -/
theorem at?_append (value : Value) (first second : List String) :
    value.at? (first ++ second) = (value.at? first).bind (·.at? second) := by
  induction first generalizing value with
  | nil => rw [at?_nil, List.nil_append, Option.bind_some]
  | cons key first ih =>
    cases shape : value.table? with
    | none => rw [List.cons_append, at?_of_not_table shape, at?_of_not_table shape, Option.bind_none]
    | some entries =>
      cases value with
      | table entries =>
        rw [List.cons_append, at?_table, at?_table]
        cases Assoc.get? entries key with
        | none => rfl
        | some found => exact ih found
      | _ => cases shape

theorem Distinct.at? {value found : Value} (unique : value.Distinct) {path : List String}
    (there : value.at? path = some found) : found.Distinct := by
  induction path generalizing value with
  | nil =>
    rw [at?_nil] at there
    cases there
    exact unique
  | cons key path ih =>
    cases value with
    | table entries =>
      rw [at?_table] at there
      obtain ⟨inner, here, there⟩ := Option.bind_eq_some_iff.1 there
      exact ih (Table.Distinct.get? unique here) there
    | _ => cases there

/-- On the way along the path there is a value that is no table. -/
def Blocks (value : Value) (path : List String) : Prop :=
  ∃ start found, start <+: path ∧ start ≠ path ∧ value.at? start = some found ∧
    found.table? = none

theorem blocks_of_not_table {value : Value} (other : value.table? = none) (key : String)
    (path : List String) : value.Blocks (key :: path) :=
  ⟨[], value, List.nil_prefix, nofun, at?_nil value, other⟩

theorem blocks_table_iff {entries : Table} {key : String} {path : List String} :
    (Value.table entries).Blocks (key :: path) ↔
      ∃ found, Assoc.get? entries key = some found ∧ found.Blocks path := by
  constructor
  · rintro ⟨start, last, before, proper, there, other⟩
    cases start with
    | nil =>
      rw [at?_nil] at there
      cases there
      cases other
    | cons first start =>
      obtain ⟨rfl, below⟩ := List.cons_prefix_cons.1 before
      rw [at?_table] at there
      obtain ⟨found, here, inside⟩ := Option.bind_eq_some_iff.1 there
      refine ⟨found, here, start, last, below, ?_, inside, other⟩
      rintro rfl
      exact proper rfl
  · rintro ⟨found, here, start, last, before, proper, there, other⟩
    refine ⟨key :: start, last, List.cons_prefix_cons.2 ⟨rfl, before⟩, ?_, ?_, other⟩
    · intro same
      exact proper (List.cons.inj same).2
    · rw [at?_table, here]
      exact there

/-- What is in the way lies behind everything that was reached. -/
theorem blocks_append_iff {value found : Value} {first second : List String}
    (there : value.at? first = some found) :
    value.Blocks (first ++ second) ↔ found.Blocks second := by
  induction first generalizing value with
  | nil =>
    rw [at?_nil] at there
    cases there
    rfl
  | cons key first ih =>
    cases value with
    | table entries =>
      rw [at?_table] at there
      obtain ⟨inner, here, there⟩ := Option.bind_eq_some_iff.1 there
      rw [List.cons_append, blocks_table_iff, here, ← ih there]
      simp
    | _ => cases there

/-! ### One value over another -/

/-- What is found at a path where `old` was, once a value was laid over all that is there: two tables
are merged, anything else that is new replaces, and what is new in the way hides. -/
structure Overlaid (old : Option Value) (new : Value) (path : List String) (found : Option Value) :
    Prop where
  merged : ∀ a w, old = some (.table a) → new.at? path = some (.table w) →
    found = some (.table (Table.merge a w))
  given : ∀ value, new.at? path = some value →
    (∀ a w, old = some (.table a) → value ≠ .table w) → found = some value
  blocked : new.at? path = none → new.Blocks path → found = none
  kept : new.at? path = none → ¬ new.Blocks path → found = old

theorem tables_or_apart (old : Option Value) (value : Value) :
    (∃ a w, old = some (.table a) ∧ value = .table w) ∨
      ∀ a w, old = some (.table a) → value ≠ .table w := by
  by_cases tables : ∃ a w, old = some (.table a) ∧ value = .table w
  · exact .inl tables
  · exact .inr fun a w before same => tables ⟨a, w, before, same⟩

theorem over_of_not_tables {old : Option Value} {value : Value}
    (apart : ∀ a w, old = some (.table a) → value ≠ .table w) : value.over old = value := by
  cases value with
  | table entries =>
    rw [over_table]
    split
    · rename_i a
      exact absurd rfl (apart a entries rfl)
    · rfl
  | _ => rfl

theorem Overlaid.of_unreached {old : Option Value} {entries : Table} {key : String}
    {path : List String} (absent : Assoc.get? entries key = none) :
    Overlaid old (.table entries) (key :: path) old := by
  have nothing : (Value.table entries).at? (key :: path) = none := by
    rw [at?_table, absent, Option.bind_none]
  have free : ¬ (Value.table entries).Blocks (key :: path) := by
    rw [blocks_table_iff, absent]
    exact nofun
  refine ⟨?_, ?_, fun _ blocked => absurd blocked free, fun _ _ => rfl⟩
  · intro a w _ there
    rw [nothing] at there
    cases there
  · intro value there
    rw [nothing] at there
    cases there

/-- Of what is new only its value at the path counts, and whether something is in the way there. -/
theorem Overlaid.congr {old found : Option Value} {new other : Value} {path path' : List String}
    (laid : Overlaid old new path found) (same : other.at? path' = new.at? path)
    (way : other.Blocks path' ↔ new.Blocks path) : Overlaid old other path' found := by
  constructor
  · rw [same]
    exact laid.merged
  · rw [same]
    exact laid.given
  · rw [same, way]
    exact laid.blocked
  · rw [same, way]
    exact laid.kept

theorem Overlaid.under {old found : Option Value} {entries : Table} {key : String} {inner : Value}
    {path : List String} (here : Assoc.get? entries key = some inner)
    (laid : Overlaid old inner path found) :
    Overlaid old (.table entries) (key :: path) found := by
  have down : (Value.table entries).at? (key :: path) = inner.at? path := by
    rw [at?_table, here, Option.bind_some]
  have way : (Value.table entries).Blocks (key :: path) ↔ inner.Blocks path := by
    rw [blocks_table_iff, here]
    simp
  exact laid.congr down way

theorem Overlaid.of_replaced {old : Option Value} {value : Value}
    (apart : ∀ a w, old = some (.table a) → value ≠ .table w) (path : List String) :
    Overlaid (old.bind (·.at? path)) value path (value.at? path) := by
  cases path with
  | nil =>
    have here : (old.bind fun found => found.at? []) = old := by
      cases old with
      | none => rfl
      | some found => exact at?_nil found
    rw [here, at?_nil]
    refine ⟨?_, fun _ there _ => (at?_nil value).symm.trans there, nofun, nofun⟩
    rintro a w before ⟨⟩
    exact absurd rfl (apart a w before)
  | cons key path =>
    cases value with
    | table entries =>
      have nothing : (old.bind fun found => found.at? (key :: path)) = none := by
        cases old with
        | none => rfl
        | some found =>
          cases found with
          | table a => exact absurd rfl (apart a entries rfl)
          | _ => rfl
      rw [nothing]
      exact ⟨nofun, fun _ there _ => there, fun gone _ => gone, fun gone _ => gone⟩
    | _ =>
      exact ⟨nofun, nofun, fun gone _ => gone,
        fun _ free => absurd (blocks_of_not_table rfl key path) free⟩

/-- Unless a table meets a table, the new value counts alone. -/
theorem over_overlaid_of_tables {old : Option Value} {value : Value} {path : List String}
    (tables : ∀ a w, old = some (.table a) → value = .table w →
      Overlaid ((Value.table a).at? path) (.table w) path ((Value.table (Table.merge a w)).at? path)) :
    Overlaid (old.bind (·.at? path)) value path ((value.over old).at? path) := by
  rcases tables_or_apart old value with ⟨a, w, rfl, rfl⟩ | apart
  · exact tables a w rfl rfl
  · rw [over_of_not_tables apart]
    exact .of_replaced apart path

theorem merge_overlaid (a : Table) {w : Table} (unique : w.Distinct) (path : List String) :
    Overlaid ((Value.table a).at? path) (.table w) path ((Value.table (Table.merge a w)).at? path) := by
  -- Along the path: under its first key the new value is laid over the old one, and both may be tables.
  induction path generalizing a w with
  | nil =>
    refine ⟨?_, fun _ there apart => ?_, nofun, nofun⟩
    · rintro _ _ ⟨⟩ ⟨⟩
      rfl
    · cases there
      exact absurd rfl (apart a w rfl)
  | cons key path ih =>
    rw [at?_table, at?_table, Table.get?_merge_of_nodup unique.1]
    cases given : Assoc.get? w key with
    | none => exact .of_unreached given
    | some inner =>
      refine .under given (over_overlaid_of_tables ?_)
      rintro b v _ rfl
      exact ih b (Table.Distinct.get? unique given)

theorem over_overlaid {value : Value} (unique : value.Distinct) (old : Option Value)
    (path : List String) :
    Overlaid (old.bind (·.at? path)) value path ((value.over old).at? path) := by
  refine over_overlaid_of_tables ?_
  rintro a w _ rfl
  exact merge_overlaid a unique path

/-- Old keys keep their places in a table that was laid over, and new ones follow in the order in which
they were given. -/
theorem Overlaid.keys {old found : Option Value} {new : Value} {path : List String}
    (laid : Overlaid old new path found) (unique : new.Distinct) {entries : Table}
    (there : found = some (.table entries)) :
    Assoc.keys entries = Assoc.keys (base old) ++
      (Assoc.keys (base (new.at? path))).filter fun key => !Assoc.contains (base old) key := by
  cases given : new.at? path with
  | none =>
    by_cases blocked : new.Blocks path
    · rw [laid.blocked given blocked] at there
      cases there
    · rw [← laid.kept given blocked, there]
      exact (List.append_nil _).symm
  | some value =>
    rcases tables_or_apart old value with ⟨a, w, rfl, rfl⟩ | apart
    · rw [laid.merged a w rfl given] at there
      cases there
      exact Table.keys_merge a (unique.at? given).1
    · rw [laid.given value given apart] at there
      cases there
      have nothing : base old = [] := by
        unfold base
        split
        · rename_i a
          exact absurd rfl (apart a entries rfl)
        · rfl
      rw [nothing]
      exact (List.filter_eq_self.2 fun key _ => rfl).symm

theorem Overlaid.unique {old found other : Option Value} {new : Value} {path : List String}
    (laid : Overlaid old new path found) (again : Overlaid old new path other) : found = other := by
  cases given : new.at? path with
  | none =>
    by_cases blocked : new.Blocks path
    · rw [laid.blocked given blocked, again.blocked given blocked]
    · rw [laid.kept given blocked, again.kept given blocked]
  | some value =>
    rcases tables_or_apart old value with ⟨a, w, rfl, rfl⟩ | apart
    · rw [laid.merged a w rfl given, again.merged a w rfl given]
    · rw [laid.given value given apart, again.given value given apart]

/-! ### The path to a value -/

theorem at?_under_append (path : List String) (value : Value) (rest : List String) :
    (value.under path).at? (path ++ rest) = value.at? rest := by
  induction path with
  | nil => rfl
  | cons key path ih =>
    rw [under, List.cons_append, at?_table, Assoc.get?_cons, if_pos rfl, Option.bind_some, ih]

theorem at?_under_self (path : List String) (value : Value) :
    (value.under path).at? path = some value := by
  have whole := at?_under_append path value []
  rwa [List.append_nil, at?_nil] at whole

/-- From where the path ends, what was laid is the value itself. -/
theorem Overlaid.beyond {old found : Option Value} {value : Value} {path rest : List String}
    (laid : Overlaid old (value.under path) (path ++ rest) found) : Overlaid old value rest found := by
  have down := at?_under_append path value rest
  have way : (value.under path).Blocks (path ++ rest) ↔ value.Blocks rest :=
    blocks_append_iff (at?_under_self path value)
  exact laid.congr down.symm way.symm

theorem at?_under_above {path above : List String} (before : above <+: path) (proper : above ≠ path)
    (value : Value) : ∃ entries, (value.under path).at? above = some (.table entries) := by
  induction path generalizing above with
  | nil => exact absurd (List.prefix_nil.1 before) proper
  | cons key path ih =>
    cases above with
    | nil => exact ⟨_, at?_nil _⟩
    | cons first above =>
      obtain ⟨rfl, below⟩ := List.cons_prefix_cons.1 before
      obtain ⟨entries, there⟩ := ih below fun same => proper (same ▸ rfl)
      refine ⟨entries, ?_⟩
      rw [under, at?_table, Assoc.get?_cons, if_pos rfl, Option.bind_some, there]

/-- Away from the path there is nothing, and nothing in the way. -/
theorem at?_under_apart {path other : List String} (before : ¬ path <+: other)
    (after : ¬ other <+: path) (value : Value) :
    (value.under path).at? other = none ∧ ¬ (value.under path).Blocks other := by
  induction path generalizing other with
  | nil => exact absurd List.nil_prefix before
  | cons key path ih =>
    cases other with
    | nil => exact absurd List.nil_prefix after
    | cons first other =>
      rw [under, at?_table, blocks_table_iff, Assoc.get?_cons]
      by_cases same : key = first
      · subst same
        rw [List.prefix_cons_inj] at before after
        obtain ⟨nothing, free⟩ := ih before after
        rw [if_pos rfl, Option.bind_some]
        refine ⟨nothing, ?_⟩
        rintro ⟨_, ⟨⟩, blocked⟩
        exact free blocked
      · rw [if_neg same]
        exact ⟨rfl, nofun⟩

end Value

namespace Table

def at? (t : Table) (path : List String) : Option Value :=
  (Value.table t).at? path

/-- The path leads to a table. -/
def HasTable (t : Table) (path : List String) : Prop :=
  ∃ entries, t.at? path = some (.table entries)

/-- What a table holds when a value was laid over it at a path: the same as before away from the path,
tables on the way to it, and from its end on the value, with what it leaves of a table that was there. -/
structure LaidAt (before : Table) (path : List String) (value : Value) (after : Table) : Prop where
  apart : ∀ other, ¬ path <+: other → ¬ other <+: path → after.at? other = before.at? other
  above : ∀ above, above <+: path → above ≠ path → after.HasTable above
  replaced : value.table? = none →
    ∀ rest, after.at? (path ++ rest) = if rest = [] then some value else none
  placed : value.table?.isSome = true → ¬ before.HasTable path →
    ∀ rest, after.at? (path ++ rest) = value.at? rest
  merged : value.table?.isSome = true → ∀ base : Table, before.at? path = some (.table base) →
    ∀ rest, Value.Overlaid (base.at? rest) value rest (after.at? (path ++ rest))

theorem mergeAt_eq_over {path : List String} {value : Value}
    (effective : path ≠ [] ∨ value.table?.isSome = true) (t : Table) :
    Value.table (t.mergeAt path value) = (value.under path).over (some (.table t)) := by
  rw [mergeAt_eq_merge]
  cases path with
  | nil =>
    cases value with
    | table entries => rfl
    | _ => cases effective.resolve_left (fun other => other rfl)
  | cons key path => rfl

section

variable {path : List String} {value : Value}

theorem mergeAt_overlaid (fine : value.Distinct) (path : List String)
    (effective : path ≠ [] ∨ value.table?.isSome = true) (t : Table) (other : List String) :
    Value.Overlaid (t.at? other) (value.under path) other ((t.mergeAt path value).at? other) := by
  have laid := Value.over_overlaid (Value.under_distinct fine path) (some (.table t)) other
  rw [← mergeAt_eq_over effective, Option.bind_some] at laid
  exact laid

theorem mergeAt_nil_of_not_table (other : value.table? = none) (t : Table) :
    t.mergeAt [] value = t := by
  cases value with
  | table entries => cases other
  | _ => rfl

/-- At every level old keys keep their places, and new ones follow in the order they are given in. -/
theorem keys_mergeAt (fine : value.Distinct) (path : List String) (t : Table) {other : List String}
    {entries : Table} (there : (t.mergeAt path value).at? other = some (.table entries)) :
    let old := Value.base (t.at? other)
    let given := Value.base ((value.under path).at? other)
    Assoc.keys entries =
      Assoc.keys old ++ (Assoc.keys given).filter fun key => !Assoc.contains old key := by
  by_cases idle : path = [] ∧ value.table? = none
  · obtain ⟨rfl, plain⟩ := idle
    have nothing : Value.base ((value.under []).at? other) = [] :=
      Value.base_at?_of_not_table plain other
    rw [mergeAt_nil_of_not_table plain] at there
    rw [there, nothing]
    exact (List.append_nil _).symm
  · have effective : path ≠ [] ∨ value.table?.isSome = true := by
      by_cases root : path = []
      · exact .inr (Option.isSome_iff_ne_none.2 fun plain => idle ⟨root, plain⟩)
      · exact .inl root
    have laid := mergeAt_overlaid fine path effective t other
    exact laid.keys (Value.under_distinct fine path) there

theorem laidAt_mergeAt (fine : value.Distinct) (effective : path ≠ [] ∨ value.table?.isSome = true)
    (t : Table) : LaidAt t path value (t.mergeAt path value) := by
  have laid := mergeAt_overlaid fine path effective t
  have old : ∀ rest, t.at? (path ++ rest) = (t.at? path).bind (·.at? rest) :=
    Value.at?_append (.table t) path
  have beyond : ∀ rest, Value.Overlaid ((t.at? path).bind (·.at? rest)) value rest
      ((t.mergeAt path value).at? (path ++ rest)) :=
    fun rest => old rest ▸ (laid (path ++ rest)).beyond
  -- Where no table meets a table at the path, nothing of what was there is left beyond it.
  have alone : (∀ a w, t.at? path = some (.table a) → value ≠ .table w) →
      ∀ rest, (t.mergeAt path value).at? (path ++ rest) = value.at? rest :=
    fun apart rest => (beyond rest).unique (.of_replaced apart rest)
  constructor
  case apart =>
    intro other before after
    obtain ⟨nothing, free⟩ := Value.at?_under_apart before after value
    exact (laid other).kept nothing free
  case above =>
    intro above before proper
    obtain ⟨entries, there⟩ := Value.at?_under_above before proper value
    rcases Value.tables_or_apart (t.at? above) (.table entries) with ⟨a, w, here, same⟩ | apart
    · exact ⟨_, (laid above).merged a w here (there.trans (congrArg some same))⟩
    · exact ⟨entries, (laid above).given _ there apart⟩
  case replaced =>
    intro other rest
    have apart : ∀ a w, t.at? path = some (.table a) → value ≠ .table w := by
      rintro _ _ _ rfl
      cases other
    rw [alone apart]
    cases rest with
    | nil => exact Value.at?_nil value
    | cons key rest => exact Value.at?_of_not_table other key rest
  case placed =>
    intro _ absent
    exact alone fun a _ here _ => absent ⟨a, here⟩
  case merged =>
    intro _ base here rest
    have laid_base := beyond rest
    rw [here] at laid_base
    exact laid_base

/-- All that a merge at a path changes, seen path by path. `Value.under` has nothing but the path to the
value, so its keys on the way are the keys that are given there. -/
theorem mergeAt_by_paths {t : Table} (unique : t.Distinct) (fine : value.Distinct)
    (path : List String) :
    (path ≠ [] → LaidAt t path value (t.mergeAt path value)) ∧
      (value.table?.isSome = true → ∀ rest,
        Value.Overlaid (t.at? rest) value rest ((t.mergeAt [] value).at? rest)) ∧
      (value.table? = none → t.mergeAt [] value = t) ∧
      (∀ other entries, (t.mergeAt path value).at? other = some (.table entries) →
        let old := Value.base (t.at? other)
        let given := Value.base ((value.under path).at? other)
        Assoc.keys entries =
          Assoc.keys old ++ (Assoc.keys given).filter fun key => !Assoc.contains old key) ∧
      (t.mergeAt path value).Distinct := by
  refine ⟨fun deep => laidAt_mergeAt fine (.inl deep) t, ?_, ?_, ?_, ?_⟩
  · intro tables rest
    exact mergeAt_overlaid fine [] (.inr tables) t rest
  · intro other
    exact mergeAt_nil_of_not_table other t
  · intro other entries there
    exact keys_mergeAt fine path t there
  · rw [mergeAt_eq_merge]
    exact merge_distinct t _ unique (overlay_distinct fine path).2

end

/-- A record is laid over another: its text takes the place of a table, one field stays and one is new. -/
theorem mergeAt_by_paths_who :
    let t : Table :=
      [("severity", .string "warn"),
        ("data", .table
          [("who", .table [("label", .table [("long", .integer 1)]), ("abbr", .boolean true)]),
            ("since", .string "1948")])]
    let record : Value := .table [("url", .string "https://www.who.int"), ("label", .string "WHO")]
    let after := t.mergeAt ["data", "who"] record
    t.Distinct ∧ record.Distinct ∧
      after.at? ["severity"] = t.at? ["severity"] ∧
      after.HasTable ["data"] ∧
      after.at? ["data", "who", "label"] = some (.string "WHO") ∧
      after.at? ["data", "who", "label", "long"] = none ∧
      after.at? ["data", "who", "abbr"] = some (.boolean true) ∧
      (∀ entries, after.at? ["data", "who"] = some (.table entries) →
        Assoc.keys entries = ["label", "abbr", "url"]) ∧
      after.Distinct := by
  intro t record after
  have unique : t.Distinct := by
    simp [t, Distinct, ValuesDistinct, Value.Distinct, Assoc.keys]
  have fine : record.Distinct := by
    simp [record, ValuesDistinct, Value.Distinct]
  obtain ⟨laws, _, _, order, still⟩ := mergeAt_by_paths unique fine ["data", "who"]
  have laid := laws (by decide)
  have inside := laid.merged rfl _ rfl
  have hidden : record.Blocks ["label", "long"] :=
    ⟨["label"], .string "WHO", by decide, by decide, rfl, rfl⟩
  have free : ¬ record.Blocks ["abbr"] := by
    rw [Value.blocks_table_iff]
    rintro ⟨_, ⟨⟩, _⟩
  refine ⟨unique, fine, ?_, ?_, ?_, ?_, ?_, order ["data", "who"], still⟩
  · exact laid.apart _ (by decide) (by decide)
  · exact laid.above _ (by decide) (by decide)
  · refine (inside ["label"]).given _ rfl ?_
    rintro _ _ _ ⟨⟩
  · exact (inside ["label", "long"]).blocked rfl hidden
  · exact (inside ["abbr"]).kept rfl free

end Table
end InlineVariables.Toml
