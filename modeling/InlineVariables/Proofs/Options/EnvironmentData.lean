import InlineVariables.Proofs.Options.Decoding
import InlineVariables.Proofs.Options.EnvironmentNames
import InlineVariables.Proofs.Toml.Leaves

/-!
Data in environment variables. A table of texts is written as one variable for each of its leaves, named
by the path to it (`Environment.dataVariable`). Main statement: `Options.load_environment_data`, the
table is read back as it was.
-/

namespace InlineVariables

open Toml (Value Table datetimeMarker)

namespace Environment

variable {env : Environment}

/-- The variable for the text at a path of the data. -/
def dataVariable (env : Environment) (path : List String) : String :=
  env.lead ++ env.separator ++ "DATA" ++ String.join (path.map (env.separator ++ ·))

def begins (env : Environment) (name : String) : Bool :=
  (Text.after? (env.lead.toList ++ env.separator.toList) name.toList).isSome

/-- The text has no character of the separator. -/
def Spares (env : Environment) (text : String) : Prop :=
  ∀ c ∈ text.toList, c ∉ env.separator.toList

theorem begins_of_selects {name : String} (selected : env.Selects name) : env.begins name = true := by
  obtain ⟨tail, _, rfl⟩ := selected
  have spelled : (env.lead ++ env.separator ++ tail).toList =
      env.lead.toList ++ env.separator.toList ++ tail.toList := by
    simp
  unfold begins
  rw [Text.after?_eq_some_iff.2 spelled]
  rfl

theorem entries_of_begins (env : Environment) (settings : List (String × String)) :
    env.entries settings = env.entries (settings.filter (env.begins ·.1)) :=
  (entries_filter_of (fun _ => begins_of_selects) settings).symm

theorem entry?_dataVariable (word : env.Spares "DATA") {path : List String}
    (keys : ∀ key ∈ path, env.Spares key) (text : String) :
    env.entry? (env.dataVariable path) text = some ⟨"data" :: path, .string text⟩ := by
  have spelled : (env.dataVariable path).toList = (env.lead.toList ++ env.separator.toList) ++
      ("DATA".toList ++ (path.map String.toList).flatMap (env.separator.toList ++ ·)) := by
    simp [dataVariable, List.flatMap_map]
  have tail : env.tail? (env.dataVariable path) =
      some ("DATA".toList ++ (path.map String.toList).flatMap (env.separator.toList ++ ·)) := by
    rw [tail?, Text.after?_eq_some_iff.2 spelled]
    rfl
  have cut : Text.piecesOn env.separator.toList
      ("DATA".toList ++ (path.map String.toList).flatMap (env.separator.toList ++ ·)) =
        ("DATA".toList, path.map String.toList) := by
    apply Text.piecesOn_join env.separator_toList_ne
    refine List.forall_mem_cons.2 ⟨word, ?_⟩
    intro piece member
    obtain ⟨key, there, rfl⟩ := List.mem_map.1 member
    exact keys key there
  have same : (path.map String.toList).map String.ofList = path := by
    simp
  have lower : Text.lowercase (String.ofList "DATA".toList) = "data" := rfl
  unfold entry?
  rw [tail, Option.map_some, cut]
  show some (entryOf (String.ofList "DATA".toList) ((path.map String.toList).map String.ofList) text) = _
  rw [same, entryOf, lower]
  rfl

theorem entries_cons {name value : String} {entry : Entry}
    (selected : env.entry? name value = some entry) (rest : List (String × String)) :
    env.entries ((name, value) :: rest) = entry :: env.entries rest := by
  unfold entries
  simp [selected]

theorem entries_dataVariables (word : env.Spares "DATA") {texts : List (List String × String)}
    (keys : ∀ leaf ∈ texts, ∀ key ∈ leaf.1, env.Spares key) :
    env.entries (texts.map fun leaf => (env.dataVariable leaf.1, leaf.2)) =
      texts.map fun leaf => ⟨"data" :: leaf.1, .string leaf.2⟩ := by
  induction texts with
  | nil => rfl
  | cons leaf rest ih =>
    obtain ⟨here, there⟩ := List.forall_mem_cons.1 keys
    rw [List.map_cons, entries_cons (entry?_dataVariable word here leaf.2), ih there, List.map_cons]

end Environment

namespace Options

theorem decode_data {t : Table} (plain : Table.EveryKey (· ≠ datetimeMarker) t)
    (texts : Table.textual t = t) : decode .merged [("data", .table t)] = .ok { data := t } := by
  have restored := Table.restore_of_everyKey plain
  rw [texts] at restored
  have single : (Assoc.keys [("data", Value.table t)]).Nodup := List.pairwise_singleton _ _
  exact decode_of_erase single rfl restored rfl

theorem mergeAll_data {t : Table} (unique : t.Distinct) (some_entry : t ≠ []) :
    Entry.mergeAll [] ((Table.leaves t).map (.under "data")) = [("data", .table t)] := by
  rw [Entry.mergeAll_under [] "data" (Table.leaves_ne_nil t some_entry) Table.leaves_path,
    Table.mergeAll_leaves t unique.2]
  show [("data", Value.table (Table.merge [] t))] = _
  rw [Table.merge_nil unique.1]

/-- A table whose leaves are texts is read back from the variables that are named by the paths to them,
whatever other variables stand between. -/
theorem load_environment_data (files : FileTree) (env : Environment) {t : Table}
    (unique : t.Distinct) {texts : List (List String × String)}
    (leaves : Table.leaves t = texts.map fun leaf => ⟨leaf.1, .string leaf.2⟩)
    (plain : Table.EveryKey (· ≠ datetimeMarker) t) (keys : Table.EveryKey env.Spares t)
    (word : env.Spares "DATA") {settings : List (String × String)}
    (given : settings.filter (env.begins ·.1) =
      texts.map fun leaf => (env.dataVariable leaf.1, leaf.2)) :
    (load ⟨files, settings⟩ [.environment env]).result = .ok { data := t } := by
  have free : ∀ leaf ∈ texts, ∀ key ∈ leaf.1, env.Spares key := by
    intro leaf member
    apply Table.leaves_keys t keys ⟨leaf.1, .string leaf.2⟩
    rw [leaves]
    exact List.mem_map_of_mem member
  have entries : env.entries settings = (Table.leaves t).map (.under "data") := by
    rw [Environment.entries_of_begins, given, Environment.entries_dataVariables word free, leaves,
      List.map_map]
    rfl
  have yields : [Source.environment env].map (fun source => (source.entries ⟨files, settings⟩).result) =
      [(Table.leaves t).map (.under "data")].map .ok := by
    rw [← entries]
    rfl
  have strings : Table.textual t = t := by
    apply Table.textual_of_leaves
    intro leaf member
    rw [leaves] at member
    obtain ⟨_, _, rfl⟩ := List.mem_map.1 member
    rfl
  rw [load_of_yields yields, List.flatten_singleton]
  by_cases nothing : t = []
  · subst nothing
    rfl
  · rw [mergeAll_data unique nothing, decode_data plain strings]
    rfl

private def mdvars : Environment :=
  ⟨"MDVARS", "::", by decide⟩

private def treaties : Table :=
  [("since", .string "1948"),
    ("who", .table [("label", .string "World Health Organization"), ("", .string "true"),
      ("Seat", .table [("city", .string "")])]),
    ("SINCE", .string "false")]

private def treatyTexts : List (List String × String) :=
  [(["since"], "1948"), (["who", "label"], "World Health Organization"), (["who", ""], "true"),
    (["who", "Seat", "city"], ""), (["SINCE"], "false")]

private def treatySettings : List (String × String) :=
  [("PATH", "/bin"), ("MDVARS::DATA::since", "1948"),
    ("MDVARS::DATA::who::label", "World Health Organization"), ("MDVARS:DATA::since", "1919"),
    ("MDVARS::DATA::who::", "true"), ("MDVARS::DATA::who::Seat::city", ""),
    ("mdvars::DATA::since", "1920"), ("MDVARS::DATA::SINCE", "false")]

/-- Keys differ in case or are empty, and texts look like truth values or are empty. -/
theorem load_environment_data_treaties :
    treaties.Distinct ∧
      Table.leaves treaties = treatyTexts.map (fun leaf => ⟨leaf.1, .string leaf.2⟩) ∧
      Table.EveryKey (· ≠ datetimeMarker) treaties ∧ Table.EveryKey mdvars.Spares treaties ∧
      mdvars.Spares "DATA" ∧
      treatySettings.filter (mdvars.begins ·.1) =
        treatyTexts.map (fun leaf => (mdvars.dataVariable leaf.1, leaf.2)) ∧
      (load ⟨⟨[]⟩, treatySettings⟩ [.environment mdvars]).result = .ok { data := treaties } := by
  have unique : treaties.Distinct := by
    simp [treaties, Table.Distinct, Assoc.keys, Table.ValuesDistinct, Value.Distinct]
  have leaves : Table.leaves treaties = treatyTexts.map fun leaf => ⟨leaf.1, .string leaf.2⟩ := rfl
  have plain : Table.EveryKey (· ≠ datetimeMarker) treaties := by
    simp [treaties, Table.EveryKey, Value.EveryKey, datetimeMarker]
  have keys : Table.EveryKey mdvars.Spares treaties := by
    simp [treaties, Table.EveryKey, Value.EveryKey, Environment.Spares, mdvars]
  have word : mdvars.Spares "DATA" := by
    simp [Environment.Spares, mdvars]
  have given : treatySettings.filter (mdvars.begins ·.1) =
      treatyTexts.map fun leaf => (mdvars.dataVariable leaf.1, leaf.2) := by
    decide
  exact ⟨unique, leaves, plain, keys, word, given,
    load_environment_data ⟨[]⟩ mdvars unique leaves plain keys word given⟩

end Options

end InlineVariables
