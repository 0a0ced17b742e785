import InlineVariables.Options.Loader
import InlineVariables.Proofs.Toml.Merge
import InlineVariables.Proofs.Toml.Restoration

/-!
How sources build the table that is decoded. The table depends on the entries of all sources one after
another (`Options.gather_ok_iff`) and repeats no key when theirs do not. A file alone is decoded as it
was read (`Options.load_file_iff`). A source taken twice in a row counts once (`Options.load_again`).
-/

namespace InlineVariables

open Toml (Table)

namespace Source

/-- No table among the entries of a source repeats a key. This can only fail for entries that are
given as they are. -/
def Distinct : Source → Prop
  | .custom (.ok entries) => ∀ entry ∈ entries, entry.value.Distinct
  | _ => True

theorem documentEntries_ok_iff {path : String} {table : Table} {entries : List Entry} :
    (documentEntries path table).result = .ok entries ↔
      (∀ value, Assoc.get? table "data" = some value → ∃ data, value = .table data) ∧
        entries = [.root table] := by
  unfold documentEntries
  rw [show Environment.dataName = "data" from rfl]
  cases Assoc.get? table "data" with
  | none =>
    constructor
    · rintro ⟨⟩
      exact ⟨nofun, rfl⟩
    · rintro ⟨_, rfl⟩
      rfl
  | some value =>
    cases value with
    | table data =>
      constructor
      · rintro ⟨⟩
        refine ⟨?_, rfl⟩
        rintro _ ⟨⟩
        exact ⟨data, rfl⟩
      · rintro ⟨_, rfl⟩
        rfl
    | _ =>
      refine iff_of_false nofun ?_
      rintro ⟨tables, _⟩
      obtain ⟨_, same⟩ := tables _ rfl
      cases same

theorem fileEntries_ok {files : FileTree} {path : String} {required : Bool} {entries : List Entry}
    (yields : (fileEntries files path required).result = .ok entries) :
    entries = [] ∨
      ∃ text table, files.read path = .text text ∧ Toml.readDocument text = some table ∧
        entries = [.root table] := by
  unfold fileEntries at yields
  split at yields
  · split at yields
    · cases yields
    · cases yields
      exact .inl rfl
  · cases yields
  · rename_i text reading
    split at yields
    · cases yields
    · rename_i table read
      exact .inr ⟨text, table, reading, read, (documentEntries_ok_iff.1 yields).2⟩

theorem fileEntries_of_text {files : FileTree} {path text : String} {table : Table}
    (reading : files.read path = .text text) (read : Toml.readDocument text = some table)
    (required : Bool) : fileEntries files path required = documentEntries path table := by
  unfold fileEntries
  rw [reading]
  dsimp only
  rw [read]

theorem fileEntries_of_malformed {files : FileTree} {path text : String}
    (reading : files.read path = .text text) (malformed : Toml.readDocument text = none)
    (required : Bool) : fileEntries files path required = .fail (.malformed path) := by
  unfold fileEntries
  rw [reading]
  dsimp only
  rw [malformed]

theorem coerce_distinct (text : String) : (Environment.coerce text).Distinct := by
  unfold Environment.coerce
  split
  · trivial
  · split
    · trivial
    · trivial

theorem environmentEntry_distinct {env : Environment} {name value : String} {entry : Entry}
    (selected : env.entry? name value = some entry) : entry.value.Distinct := by
  obtain ⟨tail, _, rfl⟩ := Option.map_eq_some_iff.1 selected
  dsimp only
  unfold Environment.entryOf
  dsimp only
  split
  · trivial
  · exact coerce_distinct value

theorem entries_distinct {around : Surroundings} {source : Source} {entries : List Entry}
    (fine : source.Distinct) (yields : (source.entries around).result = .ok entries) :
    ∀ entry ∈ entries, entry.value.Distinct := by
  cases source with
  | file path required =>
    rcases fileEntries_ok yields with rfl | ⟨text, table, _, read, rfl⟩
    · exact nofun
    · exact List.forall_mem_singleton.2 (Toml.readDocument_distinct read)
  | environment env =>
    cases yields
    intro entry member
    obtain ⟨⟨name, value⟩, _, selected⟩ := List.mem_filterMap.1 member
    exact environmentEntry_distinct selected
  | custom given =>
    cases yields
    exact fine

end Source

namespace Options

variable {around : Surroundings}

theorem gather_cons (t : Table) (source : Source) (sources : List Source) :
    gather around t (source :: sources) =
      (source.entries around).andThen fun entries =>
        gather around (Entry.mergeAll t entries) sources := rfl

theorem gather_append (t : Table) (first second : List Source) :
    gather around t (first ++ second) =
      (gather around t first).andThen fun u => gather around u second := by
  induction first generalizing t with
  | nil => rfl
  | cons source rest ih =>
    rw [List.cons_append, gather_cons, gather_cons, Run.andThen_assoc]
    simp only [ih]

/-- Sources build a table exactly when each yields entries, and these are merged in turn. -/
theorem gather_ok_iff {t u : Table} {sources : List Source} :
    (gather around t sources).result = .ok u ↔
      ∃ given : List (List Entry),
        sources.map (fun source => (source.entries around).result) = given.map .ok ∧
          u = Entry.mergeAll t given.flatten := by
  induction sources generalizing t with
  | nil =>
    constructor
    · intro built
      cases built
      exact ⟨[], rfl, rfl⟩
    · rintro ⟨given, yields, rfl⟩
      obtain rfl := List.map_eq_nil_iff.1 yields.symm
      rfl
  | cons source rest ih =>
    rw [gather_cons, Run.andThen_result_ok_iff]
    constructor
    · rintro ⟨entries, first, built⟩
      obtain ⟨given, yields, rfl⟩ := ih.1 built
      refine ⟨entries :: given, ?_, ?_⟩
      · rw [List.map_cons, List.map_cons, first, yields]
      · rw [List.flatten_cons, Entry.mergeAll_append]
    · rintro ⟨given, yields, rfl⟩
      cases given with
      | nil => cases yields
      | cons entries given =>
        obtain ⟨first, yields⟩ := List.cons.inj yields
        refine ⟨entries, first, ih.2 ⟨given, yields, ?_⟩⟩
        rw [List.flatten_cons, Entry.mergeAll_append]

theorem load_of_yields {sources : List Source} {given : List (List Entry)}
    (yields : sources.map (fun source => (source.entries around).result) = given.map .ok) :
    (load around sources).result =
      (decode .merged (Entry.mergeAll [] given.flatten)).mapError .undecodable := by
  have built : (gather around [] sources).result = .ok (Entry.mergeAll [] given.flatten) :=
    gather_ok_iff.2 ⟨given, yields, rfl⟩
  change ((gather around [] sources).andThen _).result = _
  rw [Run.andThen_of_ok _ built]
  rfl

theorem load_ok_iff {sources : List Source} {options : Options} :
    (load around sources).result = .ok options ↔
      ∃ t, (gather around [] sources).result = .ok t ∧ decode .merged t = .ok options := by
  have step (t : Table) : (Run.ofExcept ((decode .merged t).mapError LoadError.undecodable)).result =
      .ok options ↔ decode .merged t = .ok options := by
    cases decode .merged t with
    | error e => exact iff_of_false nofun nofun
    | ok found =>
      show Except.ok found = .ok options ↔ Except.ok found = .ok options
      rw [Except.ok.injEq, Except.ok.injEq]
  show ((gather around [] sources).andThen _).result = _ ↔ _
  rw [Run.andThen_result_ok_iff]
  exact exists_congr fun t => and_congr_right fun _ => step t

theorem load_single_iff {source : Source} {options : Options} :
    (load around [source]).result = .ok options ↔
      ∃ entries, (source.entries around).result = .ok entries ∧
        decode .merged (Entry.mergeAll [] entries) = .ok options := by
  rw [load_ok_iff]
  constructor
  · rintro ⟨u, built, decoded⟩
    rw [gather_cons] at built
    obtain ⟨entries, yields, rest⟩ := Run.andThen_result_ok_iff.1 built
    cases rest
    exact ⟨entries, yields, decoded⟩
  · rintro ⟨entries, yields, decoded⟩
    exact ⟨_, Run.andThen_result_ok_iff.2 ⟨entries, yields, rfl⟩, decoded⟩

/-- A file alone is loaded when its data, if there are any, are a table, and its table is decoded. -/
theorem load_file_iff {path text : String} {table : Table} {options : Options}
    (reading : around.files.read path = .text text) (read : Toml.readDocument text = some table)
    (required : Bool) :
    (load around [.file path required]).result = .ok options ↔
      (∀ value, Assoc.get? table "data" = some value → ∃ data, value = .table data) ∧
        decode .merged table = .ok options := by
  have document : Source.entries around (.file path required) = Source.documentEntries path table :=
    Source.fileEntries_of_text reading read required
  have merged : Entry.mergeAll [] [Entry.root table] = table :=
    Table.merge_nil (Toml.readDocument_distinct read).1
  rw [load_single_iff, document]
  constructor
  · rintro ⟨entries, yields, decoded⟩
    obtain ⟨tables, rfl⟩ := Source.documentEntries_ok_iff.1 yields
    rw [merged] at decoded
    exact ⟨tables, decoded⟩
  · rintro ⟨tables, decoded⟩
    refine ⟨_, Source.documentEntries_ok_iff.2 ⟨tables, rfl⟩, ?_⟩
    rw [merged]
    exact decoded

theorem load_malformed {path text : String} (reading : around.files.read path = .text text)
    (malformed : Toml.readDocument text = none) (required : Bool) :
    (load around [.file path required]).result = .error (.malformed path) := by
  have fails : Source.entries around (.file path required) = .fail (.malformed path) :=
    Source.fileEntries_of_malformed reading malformed required
  unfold load
  rw [gather_cons, fails]
  rfl

theorem gather_unique {sources : List Source} {u : Table}
    (built : (gather around [] sources).result = .ok u) : (Assoc.keys u).Nodup := by
  obtain ⟨given, _, rfl⟩ := gather_ok_iff.1 built
  rw [Entry.mergeAll_eq_merge]
  exact Table.nodup_merge (t := []) List.nodup_nil _

theorem gather_distinct {t u : Table} {sources : List Source}
    (fine : ∀ source ∈ sources, source.Distinct) (unique : t.Distinct)
    (built : (gather around t sources).result = .ok u) : u.Distinct := by
  induction sources generalizing t with
  | nil =>
    cases built
    exact unique
  | cons source rest ih =>
    obtain ⟨here, there⟩ := List.forall_mem_cons.1 fine
    rw [gather_cons] at built
    obtain ⟨entries, first, built⟩ := Run.andThen_result_ok_iff.1 built
    have values : ∀ entry ∈ entries, entry.value.Distinct := Source.entries_distinct here first
    exact ih there (Entry.mergeAll_distinct unique values) built

theorem gather_again {t : Table} {source : Source} (unique : t.Distinct) (fine : source.Distinct)
    (after : List Source) :
    (gather around t (source :: source :: after)).result =
      (gather around t (source :: after)).result := by
  rw [gather_cons, gather_cons]
  refine Run.andThen_result_congr fun entries yields => ?_
  have values : ∀ entry ∈ entries, entry.value.Distinct := Source.entries_distinct fine yields
  rw [gather_cons, Run.andThen_of_ok _ yields, Entry.mergeAll_again unique values]

/-- Entries merged twice are merged once, whatever their paths and values. So a source that is
registered again right after itself never changes the outcome of a load. -/
theorem load_again :
    (∀ (t : Table) (entries : List Entry), t.Distinct → (∀ entry ∈ entries, entry.value.Distinct) →
      Entry.mergeAll (Entry.mergeAll t entries) entries = Entry.mergeAll t entries) ∧
    ∀ (around : Surroundings) (before : List Source) (source : Source) (after : List Source),
      (∀ earlier ∈ before, earlier.Distinct) → source.Distinct →
        (load around (before ++ source :: source :: after)).result =
          (load around (before ++ source :: after)).result := by
  refine ⟨fun t entries unique fine => Entry.mergeAll_again unique fine, ?_⟩
  intro around before source after earlier fine
  have built : (gather around [] (before ++ source :: source :: after)).result =
      (gather around [] (before ++ source :: after)).result := by
    rw [gather_append, gather_append]
    refine Run.andThen_result_congr fun t reached => ?_
    exact gather_again (gather_distinct earlier .nil reached) fine after
  exact Run.andThen_result_congr_left built

/-- A table is overwritten, rebuilt under a longer path and merged again; nothing else is at the empty
path. -/
theorem load_again_rebuilt :
    let entries : List Entry :=
      [⟨["data"], .integer 1⟩, ⟨["data", "who", "label"], .string "WHO"⟩, ⟨[], .integer 2⟩,
        ⟨[], .table [("severity", .string "silent"), ("data", .table [])]⟩]
    let early : Source := .custom (.ok [⟨["data", "since"], .string "1948"⟩])
    let source : Source := .custom (.ok entries)
    let around : Surroundings := ⟨⟨[]⟩, []⟩
    (∀ entry ∈ entries, entry.value.Distinct) ∧
      Entry.mergeAll (Entry.mergeAll [] entries) entries = Entry.mergeAll [] entries ∧
      Entry.mergeAll [] entries =
        [("data", .table [("who", .table [("label", .string "WHO")])]),
          ("severity", .string "silent")] ∧
      (load around [early, source, source]).result = (load around [early, source]).result := by
  intro entries early source around
  have fine : ∀ entry ∈ entries, entry.value.Distinct := by
    simp [entries, Toml.Value.Distinct, Toml.Table.ValuesDistinct]
  have single : ∀ earlier ∈ [early], earlier.Distinct := by
    simp [early, Source.Distinct, Toml.Value.Distinct]
  exact ⟨fine, load_again.1 [] entries .nil fine, rfl, load_again.2 around [early] source [] single fine⟩

end Options

end InlineVariables
