import InlineVariables.Proofs.Options.Loading

/-!
What a load comes to, source by source. The first source that fails ends it, whatever the others give.
When none fails, only the entries of all sources one after another count, and not which source they come
from (`Options.load_by_sources`). `Source.FileFails` lists the ways in which a file fails.
-/

namespace InlineVariables

open Toml (Table)

namespace Source

/-- The ways in which a file has no entries to give. No two of them apply to one file. -/
inductive FileFails (files : FileTree) (path : String) (required : Bool) : LoadError → Prop
  | notFound (reading : files.read path = .absent) (needed : required = true) :
    FileFails files path required (.fileNotFound path)
  | unreadable {failure : ReadFailure} (reading : files.read path = .failed failure) :
    FileFails files path required (.unreadable path failure)
  | malformed {text : String} (reading : files.read path = .text text)
    (unread : Toml.readDocument text = none) : FileFails files path required (.malformed path)
  | dataNotTable {text : String} {table : Table} {value : Toml.Value}
    (reading : files.read path = .text text) (read : Toml.readDocument text = some table)
    (found : Assoc.get? table "data" = some value) (other : value.table? = none) :
    FileFails files path required (.dataNotTable path value.typeName)

theorem documentEntries_error_iff {path : String} {table : Table} {e : LoadError} :
    (documentEntries path table).result = .error e ↔
      ∃ value, Assoc.get? table "data" = some value ∧ value.table? = none ∧
        e = .dataNotTable path value.typeName := by
  unfold documentEntries
  rw [show Environment.dataName = "data" from rfl]
  cases Assoc.get? table "data" with
  | none =>
    refine iff_of_false nofun ?_
    rintro ⟨_, ⟨⟩, _⟩
  | some value =>
    cases value with
    | table data =>
      refine iff_of_false nofun ?_
      rintro ⟨_, ⟨⟩, other, _⟩
      cases other
    | _ =>
      constructor
      · rintro ⟨⟩
        exact ⟨_, rfl, rfl, rfl⟩
      · rintro ⟨_, ⟨⟩, _, rfl⟩
        rfl

variable {files : FileTree} {path : String} {required : Bool}

theorem fileEntries_of_absent (reading : files.read path = .absent) :
    fileEntries files path required =
      if required then .fail (.fileNotFound path)
      else (Run.report (.fileAbsent path)).andThen fun _ => .ok [] := by
  unfold fileEntries
  rw [reading]
  rfl

theorem fileEntries_of_failed {failure : ReadFailure} (reading : files.read path = .failed failure) :
    fileEntries files path required = .fail (.unreadable path failure) := by
  unfold fileEntries
  rw [reading]

theorem fileEntries_error_iff {e : LoadError} :
    (fileEntries files path required).result = .error e ↔ FileFails files path required e := by
  constructor
  · intro fails
    cases reading : files.read path with
    | absent =>
      rw [fileEntries_of_absent reading] at fails
      cases required with
      | true =>
        cases fails
        exact .notFound reading rfl
      | false => cases fails
    | failed failure =>
      rw [fileEntries_of_failed reading] at fails
      cases fails
      exact .unreadable reading
    | text content =>
      cases read : Toml.readDocument content with
      | none =>
        rw [fileEntries_of_malformed reading read] at fails
        cases fails
        exact .malformed reading read
      | some table =>
        rw [fileEntries_of_text reading read, documentEntries_error_iff] at fails
        obtain ⟨value, found, other, rfl⟩ := fails
        exact .dataNotTable reading read found other
  · intro fails
    cases fails with
    | notFound reading needed =>
      rw [fileEntries_of_absent reading, needed]
      rfl
    | unreadable reading =>
      rw [fileEntries_of_failed reading]
      rfl
    | malformed reading unread =>
      rw [fileEntries_of_malformed reading unread]
      rfl
    | dataNotTable reading read found other =>
      rw [fileEntries_of_text reading read, documentEntries_error_iff]
      exact ⟨_, found, other, rfl⟩

theorem fileEntries_ok_iff {entries : List Entry} :
    (fileEntries files path required).result = .ok entries ↔
      (files.read path = .absent ∧ required = false ∧ entries = []) ∨
        ∃ text table, files.read path = .text text ∧ Toml.readDocument text = some table ∧
          (∀ value, Assoc.get? table "data" = some value → ∃ data, value = .table data) ∧
          entries = [.root table] := by
  constructor
  · intro yields
    rcases fileEntries_ok yields with rfl | ⟨text, table, reading, read, rfl⟩
    · cases reading : files.read path with
      | absent =>
        rw [fileEntries_of_absent reading] at yields
        cases required with
        | true => cases yields
        | false => exact .inl ⟨rfl, rfl, rfl⟩
      | failed failure =>
        rw [fileEntries_of_failed reading] at yields
        cases yields
      | text content =>
        -- A file that is there never gives an empty list.
        cases read : Toml.readDocument content with
        | none =>
          rw [fileEntries_of_malformed reading read] at yields
          cases yields
        | some table =>
          rw [fileEntries_of_text reading read] at yields
          cases (documentEntries_ok_iff.1 yields).2
    · rw [fileEntries_of_text reading read] at yields
      exact .inr ⟨text, table, reading, read, documentEntries_ok_iff.1 yields⟩
  · rintro (⟨reading, rfl, rfl⟩ | ⟨text, table, reading, read, tables⟩)
    · rw [fileEntries_of_absent reading]
      rfl
    · rw [fileEntries_of_text reading read]
      exact documentEntries_ok_iff.2 tables

end Source

namespace Options

variable {around : Surroundings}

/-- The first source that yields no entries fails with `e`. -/
def FirstFails (around : Surroundings) (sources : List Source) (e : LoadError) : Prop :=
  ∃ before source after, sources = before ++ source :: after ∧
    (∀ earlier ∈ before, ∃ entries, (earlier.entries around).result = .ok entries) ∧
    (source.entries around).result = .error e

theorem firstFails_cons {source : Source} {sources : List Source} {e : LoadError} :
    FirstFails around (source :: sources) e ↔
      (source.entries around).result = .error e ∨
        (∃ entries, (source.entries around).result = .ok entries) ∧ FirstFails around sources e := by
  constructor
  · rintro ⟨_ | ⟨first, before⟩, failing, after, split, earlier, fails⟩
    · obtain ⟨rfl, rfl⟩ := List.cons.inj split
      exact .inl fails
    · obtain ⟨rfl, rfl⟩ := List.cons.inj split
      obtain ⟨here, there⟩ := List.forall_mem_cons.1 earlier
      exact .inr ⟨here, before, failing, after, rfl, there, fails⟩
  · rintro (fails | ⟨here, before, failing, after, rfl, there, fails⟩)
    · exact ⟨[], source, sources, rfl, nofun, fails⟩
    · exact ⟨source :: before, failing, after, rfl, List.forall_mem_cons.2 ⟨here, there⟩, fails⟩

theorem gather_error_iff {t : Table} {sources : List Source} {e : LoadError} :
    (gather around t sources).result = .error e ↔ FirstFails around sources e := by
  induction sources generalizing t with
  | nil =>
    refine iff_of_false nofun ?_
    rintro ⟨before, _, _, split, _⟩
    cases before <;> cases split
  | cons source rest ih =>
    rw [gather_cons, Run.andThen_result_error_iff, firstFails_cons]
    refine or_congr_right ?_
    constructor
    · rintro ⟨entries, yields, fails⟩
      exact ⟨⟨entries, yields⟩, ih.1 fails⟩
    · rintro ⟨⟨entries, yields⟩, fails⟩
      exact ⟨entries, yields, ih.2 fails⟩

theorem load_of_firstFails {sources : List Source} {e : LoadError}
    (fails : FirstFails around sources e) : (load around sources).result = .error e := by
  have stopped : (gather around [] sources).result = .error e := gather_error_iff.2 fails
  unfold load
  rw [Run.bind_eq, Run.andThen_of_error _ stopped]

theorem gather_without_absent {path : String} (reading : around.files.read path = .absent) (t : Table)
    (after : List Source) :
    (gather around t (.file path false :: after)).result = (gather around t after).result := by
  have nothing : (Source.entries around (.file path false)).result = .ok [] :=
    Source.fileEntries_ok_iff.2 (.inl ⟨reading, rfl, rfl⟩)
  rw [gather_cons, Run.andThen_of_ok _ nothing]
  rfl

/-- The first source that fails decides, whatever comes before and after it. When none fails, the entries
of all sources are merged one after another and decoded, however they are grouped; a file that may be
absent and is counts for nothing. A file yields its whole document unless it fails in one of the listed
ways. -/
theorem load_by_sources (around : Surroundings) :
    (∀ sources e, FirstFails around sources e → (load around sources).result = .error e) ∧
    (∀ (sources : List Source) (given : List (List Entry)),
      sources.map (fun source => (source.entries around).result) = given.map .ok →
        (load around sources).result =
          (decode .merged (Entry.mergeAll [] given.flatten)).mapError .undecodable) ∧
    (∀ (sources others : List Source) (elsewhere : Surroundings) (given regrouped : List (List Entry)),
      sources.map (fun source => (source.entries around).result) = given.map .ok →
      others.map (fun source => (source.entries elsewhere).result) = regrouped.map .ok →
      given.flatten = regrouped.flatten →
        (load around sources).result = (load elsewhere others).result) ∧
    (∀ before path after, around.files.read path = .absent →
      (load around (before ++ .file path false :: after)).result =
        (load around (before ++ after)).result) ∧
    ∀ path required,
      (∀ e, (Source.entries around (.file path required)).result = .error e ↔
        Source.FileFails around.files path required e) ∧
      ∀ entries, (Source.entries around (.file path required)).result = .ok entries ↔
        (around.files.read path = .absent ∧ required = false ∧ entries = []) ∨
          ∃ text table, around.files.read path = .text text ∧ Toml.readDocument text = some table ∧
            (∀ value, Assoc.get? table "data" = some value → ∃ data, value = .table data) ∧
            entries = [.root table] := by
  refine ⟨fun _ _ => load_of_firstFails, fun _ _ => load_of_yields, ?_, ?_, ?_⟩
  · intro sources others elsewhere given regrouped yields others_yield same
    rw [load_of_yields yields, load_of_yields others_yield, same]
  · intro before path after reading
    have built : (gather around [] (before ++ .file path false :: after)).result =
        (gather around [] (before ++ after)).result := by
      rw [gather_append, gather_append]
      exact Run.andThen_result_congr fun t _ => gather_without_absent reading t after
    exact Run.andThen_result_congr_left built
  · exact fun path required => ⟨fun _ => Source.fileEntries_error_iff, fun _ =>
      Source.fileEntries_ok_iff⟩

/-- A required file is missing between sources that could not be decoded and one that fails as well; a file
that may be missing stands between two sources that might as well be one. -/
theorem load_by_sources_missing :
    let around : Surroundings := ⟨⟨[]⟩, []⟩
    let twice : List Entry := [⟨["class_name"], .string "a"⟩, ⟨["className"], .string "b"⟩]
    let failing : List Source :=
      [.custom (.ok twice), .file "o.toml" true, .custom (.error (.invalidSeverity "loud"))]
    let early : List Entry := [⟨["data", "since"], .string "1948"⟩]
    let late : List Entry := [⟨[], .table [("severity", .string "error")]⟩]
    let parted : List Source :=
      [.custom (.ok early), .file "local.toml" false, .custom (.ok late)]
    FirstFails around failing (.fileNotFound "o.toml") ∧
      (load around failing).result = .error (.fileNotFound "o.toml") ∧
      around.files.read "local.toml" = .absent ∧
      (load around parted).result = (load around [.custom (.ok early), .custom (.ok late)]).result ∧
      (load around parted).result = (load around [.custom (.ok (early ++ late))]).result ∧
      (load around parted).result =
        .ok { data := [("since", .string "1948")], severity := .error } := by
  intro around twice failing early late parted
  obtain ⟨stops, decodes, regroups, drops, files⟩ := load_by_sources around
  have missing : (Source.entries around (.file "o.toml" true)).result =
      .error (.fileNotFound "o.toml") :=
    ((files "o.toml" true).1 _).2 (.notFound rfl rfl)
  have first : FirstFails around failing (.fileNotFound "o.toml") := by
    refine ⟨[.custom (.ok twice)], _, _, rfl, ?_, missing⟩
    exact List.forall_mem_singleton.2 ⟨twice, rfl⟩
  have absent : around.files.read "local.toml" = .absent := rfl
  have regrouped := regroups parted [.custom (.ok (early ++ late))] around [early, [], late]
    [early ++ late] rfl rfl rfl
  have decoded := decodes parted [early, [], late] rfl
  exact ⟨first, stops failing _ first, absent, drops [.custom (.ok early)] _ _ absent, regrouped,
    decoded⟩

end Options

end InlineVariables
