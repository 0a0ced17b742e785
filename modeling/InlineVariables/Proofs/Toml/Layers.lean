import InlineVariables.Proofs.Toml.LookUp

/-!
Layers of tables. A layer laid over two others may be combined with the upper one first, unless a table
of the lowest layer and one of the highest meet at a path where the layer between them has another value.
Main statement: `Table.merge_assoc`.
-/

namespace InlineVariables.Toml

/-- Values over one another may be combined from above, when a table over another value that is there
does not meet a table below it, and when tables may be combined so. -/
theorem Value.over_over {x : Option Value} {y z : Value}
    (tables : ∀ a c, x = some (.table a) → z = .table c →
      ∃ b, y = .table b ∧ Table.merge (Table.merge a b) c = Table.merge a (Table.merge b c)) :
    z.over (some (y.over x)) = (z.over (some y)).over x := by
  cases z with
  | table c =>
    rcases tables_or_apart x (.table c) with ⟨a, _, rfl, _⟩ | apart
    · obtain ⟨b, rfl, same⟩ := tables a c rfl rfl
      exact congrArg Value.table same
    · have below : ∀ w : Table, (Value.table w).over x = .table w :=
        fun w => over_of_not_tables fun a _ here _ => apart a c here rfl
      rcases tables_or_apart (some y) (.table c) with ⟨b, _, same, _⟩ | alone
      · cases same
        rw [below]
        exact (below (Table.merge b c)).symm
      · have plain : y.table? = none := by
          cases y with
          | table b => exact absurd rfl (alone b c rfl)
          | _ => rfl
        rw [over_of_not_table plain, over_of_not_tables alone, below]
  | _ => rfl

namespace Table

/-- What holds of a table when it holds of the tables under its keys holds of every table. -/
theorem induction_inner {p : Table → Prop}
    (step : ∀ t : Table, (∀ key inner, Assoc.get? t key = some (.table inner) → p inner) → p t)
    (t : Table) : p t :=
  step t fun key inner here =>
    have part : sizeOf (key, Value.table inner) < sizeOf t :=
      List.sizeOf_lt_of_mem (Assoc.mem_of_get? here)
    have smaller : sizeOf inner < sizeOf t := by
      simp only [Prod.mk.sizeOf_spec, Value.table.sizeOf_spec] at part
      omega
    induction_inner step inner
termination_by sizeOf t

/-- Nowhere do the outer layers both have a table and the layer between them another value. -/
def Joined (a b c : Table) : Prop :=
  ∀ path value, a.HasTable path → c.HasTable path → b.at? path = some value →
    value.table?.isSome = true

theorem contains_merge (t entries : Table) (key : String) :
    Assoc.contains (merge t entries) key = (Assoc.contains t key || Assoc.contains entries key) := by
  rw [Bool.eq_iff_iff, Bool.or_eq_true, Assoc.contains_iff, Assoc.contains_iff, Assoc.contains_iff]
  exact mem_keys_merge

variable {a b c : Table}

/-- A path to a table starts in a table. -/
theorem exists_table_of_at? {value : Value} {path : List String} {entries : Table}
    (there : value.at? path = some (.table entries)) : ∃ own, value = .table own := by
  cases value with
  | table own => exact ⟨own, rfl⟩
  | _ => cases path <;> cases there

/-- Layers are joined when they are so under each key. -/
theorem joined_iff : Joined a b c ↔
    ∀ key a' y c', Assoc.get? a key = some (.table a') → Assoc.get? b key = some y →
      Assoc.get? c key = some (.table c') → ∃ b', y = .table b' ∧ Joined a' b' c' := by
  have down : ∀ {t : Table} {found : Value} {key : String}, Assoc.get? t key = some found →
      ∀ path, t.at? (key :: path) = found.at? path := by
    intro t found key here path
    rw [at?, Value.at?_table, here, Option.bind_some]
  constructor
  · intro joined key a' y c' here between there
    have first : ∀ path, a.at? (key :: path) = at? a' path := down here
    have third : ∀ path, c.at? (key :: path) = at? c' path := down there
    have at_key : b.at? [key] = some y := (down between []).trans (Value.at?_nil y)
    have tables := joined [key] y ⟨a', first []⟩ ⟨c', third []⟩ at_key
    cases y with
    | table b' =>
      refine ⟨b', rfl, fun path value lowest highest found => ?_⟩
      apply joined (key :: path) value
      · rwa [HasTable, first]
      · rwa [HasTable, third]
      · rwa [down between]
    | _ => cases tables
  · intro inner path value lowest highest found
    cases path with
    | nil =>
      cases found
      rfl
    | cons key path =>
      obtain ⟨x, lowest⟩ := lowest
      obtain ⟨z, highest⟩ := highest
      rw [at?, Value.at?_table] at lowest highest found
      obtain ⟨a_value, here, to_x⟩ := Option.bind_eq_some_iff.1 lowest
      obtain ⟨c_value, there, to_z⟩ := Option.bind_eq_some_iff.1 highest
      obtain ⟨y, between, to_value⟩ := Option.bind_eq_some_iff.1 found
      obtain ⟨a', rfl⟩ := exists_table_of_at? to_x
      obtain ⟨c', rfl⟩ := exists_table_of_at? to_z
      obtain ⟨b', rfl, joined⟩ := inner key a' y c' here between there
      exact joined path value ⟨x, to_x⟩ ⟨z, to_z⟩ to_value

theorem keys_merge_assoc (first : (Assoc.keys b).Nodup) (second : (Assoc.keys c).Nodup) :
    Assoc.keys (merge (merge a b) c) = Assoc.keys (merge a (merge b c)) := by
  rw [keys_merge _ second, keys_merge _ first, keys_merge _ (nodup_merge first c), keys_merge _ second,
    List.filter_append, List.filter_filter, List.append_assoc]
  refine congrArg _ (congrArg _ (List.filter_congr fun key _ => ?_))
  rw [contains_merge, Bool.not_or]

/-- The upper two of three layers may be combined first: the table is the same, and so is the order of its
keys. -/
theorem merge_assoc (unique : a.Distinct) (first : b.Distinct) (second : c.Distinct)
    (joined : Joined a b c) : merge (merge a b) c = merge a (merge b c) := by
  -- Both sides have the same keys in order; under a key the tables of `a` are smaller.
  induction a using induction_inner generalizing b c with
  | step a ih =>
    have upper : (Assoc.keys (merge b c)).Nodup := nodup_merge first.1 c
    have all : (Assoc.keys (merge (merge a b) c)).Nodup := nodup_merge (nodup_merge unique.1 b) c
    refine Assoc.ext_get? all (keys_merge_assoc first.1 second.1) fun key => ?_
    rw [get?_merge_of_nodup second.1, get?_merge_of_nodup first.1, get?_merge_of_nodup upper,
      get?_merge_of_nodup second.1]
    cases here : Assoc.get? b key with
    | none =>
      cases Assoc.get? c key with
      | none => rfl
      | some z =>
        dsimp only
        rw [Value.over_none]
    | some y =>
      cases there : Assoc.get? c key with
      | none => rfl
      | some z =>
        refine congrArg some (Value.over_over ?_)
        rintro a' c' found rfl
        obtain ⟨b', rfl, inner⟩ := joined_iff.1 joined key a' y c' found here there
        exact ⟨b', rfl,
          ih key a' found (unique.get? found) (first.get? here) (second.get? there) inner⟩

/-- A text between two tables, where the lowest layer has none, and a table between two texts. -/
theorem merge_assoc_who :
    let a : Table := [("data", .table [("who", .string "WHO")]), ("severity", .string "warn")]
    let b : Table := [("severity", .table [("old", .boolean true)]),
      ("data", .table [("since", .integer 1948), ("un", .string "UN")])]
    let c : Table := [("data", .table [("un", .table [("label", .string "United Nations")])]),
      ("severity", .string "silent")]
    a.Distinct ∧ b.Distinct ∧ c.Distinct ∧ Joined a b c ∧
      merge (merge a b) c = merge a (merge b c) ∧
      merge a (merge b c) =
        [("data", .table [("who", .string "WHO"), ("since", .integer 1948),
            ("un", .table [("label", .string "United Nations")])]),
          ("severity", .string "silent")] := by
  intro a b c
  have first : a.Distinct := by
    simp [a, Distinct, ValuesDistinct, Value.Distinct, Assoc.keys]
  have second : b.Distinct := by
    simp [b, Distinct, ValuesDistinct, Value.Distinct, Assoc.keys]
  have third : c.Distinct := by
    simp [c, Distinct, ValuesDistinct, Value.Distinct, Assoc.keys]
  have joined : Joined a b c := by
    refine joined_iff.2 fun key a' y c' here between there => ?_
    simp only [a, Assoc.get?_cons] at here
    split at here
    · subst key
      cases here
      cases between
      refine ⟨_, rfl, joined_iff.2 fun key a' y c' inside _ _ => ?_⟩
      simp [Assoc.get?_cons] at inside
    · simp at here
  exact ⟨first, second, third, joined, merge_assoc first second third joined, rfl⟩

-- A text keeps the tables around it apart, but is gone once the upper two are combined.
example :
    let a : Table := [("un", .table [("since", .integer 1945)])]
    let b : Table := [("un", .string "UN")]
    let c : Table := [("un", .table [])]
    merge (merge a b) c = c ∧ merge a (merge b c) = a :=
  ⟨rfl, rfl⟩

end Table
end InlineVariables.Toml
