import InlineVariables.Proofs.Lexicon
import InlineVariables.Proofs.Options.Decoding
import InlineVariables.Proofs.Options.Loading

/-!
From a document to a lexicon. The options of a document that is loaded alone have its data with every
datetime as its text (`Options.load_document`). So an entry is classified by the type it has in the
document, except that datetimes become simple variables (`Context.build_of_document`).
-/

namespace InlineVariables

open Toml (Value Table)

namespace Options

variable {around : Surroundings} {path text : String} {table data : Table}

/-- The options of a document with data are those of the document without them, and its data with
datetimes as text. -/
theorem load_document (reading : around.files.read path = .text text)
    (read : Toml.readDocument text = some table)
    (found : Assoc.get? table "data" = some (.table data)) {settings : Options}
    (valid : decode .merged (Assoc.erase table "data") = .ok settings) (required : Bool) :
    (load around [.file path required]).result =
      .ok { settings with data := Table.textual data } := by
  have unique := Toml.readDocument_distinct read
  have plain : Toml.Table.ValuesUnmarked data := by
    have unmarked := Toml.Table.valuesUnmarked_iff.1 (Toml.readDocument_unmarked read)
    exact (unmarked _ (Assoc.mem_of_get? found)).2
  refine (load_file_iff reading read required).2 ⟨?_, ?_⟩
  · intro value there
    exact ⟨data, Option.some.inj (there.symm.trans found)⟩
  · exact decode_of_erase unique.1 found (Toml.Table.restore_merged plain) valid

end Options

namespace Variable

/-- The variable of a document's value that is loaded as options. -/
def ofDocument? : Value → Option Variable
  | .string text => some (.simple text)
  | .datetime d => some (.simple d.written)
  | .table entries =>
    if Assoc.contains entries "label" then some (.structured (Record.ofTable (Table.textual entries)))
    else none
  | _ => none

def isDatetime : Value → Bool
  | .datetime _ => true
  | _ => false

/-- Whether a document's value becomes a variable when it is loaded. -/
def isLoaded (value : Value) : Bool :=
  isSimple value || isStructured value || isDatetime value

theorem isSome_ofDocument? (value : Value) : (ofDocument? value).isSome = isLoaded value := by
  cases value with
  | table entries =>
    show Option.isSome (if Assoc.contains entries "label" then
        some (structured (Record.ofTable (Table.textual entries))) else none) =
      (false || Assoc.contains entries "label" || false)
    cases Assoc.contains entries "label" <;> rfl
  | _ => rfl

theorem contains_textual (entries : Table) (key : String) :
    Assoc.contains (Table.textual entries) key = Assoc.contains entries key := by
  unfold Assoc.contains
  rw [Table.get?_textual, Option.isSome_map]

theorem ofValue_textual (key : String) (value : Value) :
    ofValue key value.textual =
      match ofDocument? value with
      | some found => .ok found
      | none => .error (.unknownVariableType key (describe value)) := by
  cases value with
  | table entries =>
    rw [Value.textual, ofValue, contains_textual, ofDocument?]
    by_cases labelled : Assoc.contains entries "label" = true
    · rw [if_pos labelled, if_pos labelled]
    · rw [if_neg labelled, if_neg labelled]
      rfl
  | _ => rfl

end Variable

namespace Lexicon

/-- The entries of a document's data that are no variables when they are loaded. -/
def refusedOf (data : Table) : List (String × Value) :=
  data.filter fun entry => !Variable.isLoaded entry.2

/-- The problem of such an entry names the type that its value has in the document. -/
def refusalOf (entry : String × Value) : ReferenceError :=
  .unknownVariableType entry.1 (Variable.describe entry.2)

theorem refusals_textual (data : Table) :
    refusals (Table.textual data) = (refusedOf data).map refusalOf := by
  induction data with
  | nil => rfl
  | cons entry rest ih =>
    obtain ⟨key, value⟩ := entry
    have kind := Variable.isSome_ofDocument? value
    rw [Toml.Table.textual, refusals, Variable.ofValue_textual, refusedOf, List.filter_cons, ← kind]
    cases Variable.ofDocument? value with
    | some found => exact ih
    | none => exact congrArg _ ih

theorem kept_textual (data : Table) :
    kept (Table.textual data) =
      data.filterMap fun entry => (Variable.ofDocument? entry.2).map fun found => (entry.1, found) := by
  induction data with
  | nil => rfl
  | cons entry rest ih =>
    obtain ⟨key, value⟩ := entry
    rw [Toml.Table.textual, kept, Variable.ofValue_textual, List.filterMap_cons]
    cases Variable.ofDocument? value with
    | some found => exact congrArg _ ih
    | none => exact ih

theorem keys_kept_textual (data : Table) :
    (kept (Table.textual data)).map (·.1) =
      (data.filter fun entry => Variable.isLoaded entry.2).map (·.1) := by
  induction data with
  | nil => rfl
  | cons entry rest ih =>
    obtain ⟨key, value⟩ := entry
    have kind := Variable.isSome_ofDocument? value
    rw [Toml.Table.textual, kept, Variable.ofValue_textual, List.filter_cons, ← kind]
    cases Variable.ofDocument? value with
    | some found => exact congrArg _ ih
    | none => exact ih

end Lexicon

namespace Context

/-- A document with data is loaded alone, and a context is built from the options. Its lexicon has the
keys whose values in the document are strings, tables with a label or datetimes. All other entries are
refused by the type of the document: under `error` the first ends the build, under `warn` they are
reported in order. -/
theorem build_of_document {around : Surroundings} {path text : String} {table data : Table}
    {settings : Options} (reading : around.files.read path = .text text)
    (read : Toml.readDocument text = some table)
    (found : Assoc.get? table "data" = some (.table data)) (some_data : data ≠ [])
    (valid : Options.decode .merged (Assoc.erase table "data") = .ok settings) (required : Bool)
    (id : Nat) :
    ∃ options, (Options.load around [.file path required]).result = .ok options ∧
      options = { settings with data := Table.textual data } ∧
      (options.severity = .error → ∀ first rest, Lexicon.refusedOf data = first :: rest →
        (build (some options) (.recorder id)).result = .error (.rejected (Lexicon.refusalOf first))) ∧
      (options.severity ≠ .error ∨ Lexicon.refusedOf data = [] →
        ∃ ctx, (build (some options) (.recorder id)).result = .ok ctx ∧
          Assoc.keys ctx.lexicon.entries =
            Assoc.keys (data.filter fun entry => Variable.isLoaded entry.2) ∧
          ctx.lexicon.entries = (data.filterMap fun entry =>
            (Variable.ofDocument? entry.2).map fun found => (entry.1, found)) ∧
          recorded id (build (some options) (.recorder id)).events =
            if options.severity = .warn then (Lexicon.refusedOf data).map Lexicon.refusalOf else []) := by
  have distinct : (Value.table data).Distinct := (Toml.readDocument_distinct read).get? found
  have unique : (Assoc.keys (Table.textual data)).Nodup := by
    rw [Assoc.keys, Toml.Table.textual_eq_map, List.map_map]
    exact distinct.1
  have filled : Table.textual data ≠ [] := by
    rw [Toml.Table.textual_eq_map, ne_eq, List.map_eq_nil_iff]
    exact some_data
  refine ⟨_, Options.load_document reading read found valid required, rfl, ?_, ?_⟩
  · intro strict first rest refused
    have raised : Lexicon.refusals (Table.textual data) =
        Lexicon.refusalOf first :: rest.map Lexicon.refusalOf := by
      rw [Lexicon.refusals_textual, refused, List.map_cons]
    exact congrArg Run.result (build_refused filled unique strict raised)
  · intro passes
    have allowed : settings.severity ≠ .error ∨ Lexicon.refusals (Table.textual data) = [] := by
      rw [Lexicon.refusals_textual, List.map_eq_nil_iff]
      exact passes
    have built := @build_accepted { settings with data := Table.textual data } (.recorder id) filled
      unique allowed
    refine ⟨_, congrArg Run.result built, Lexicon.keys_kept_textual data,
      Lexicon.kept_textual data, ?_⟩
    rw [built, recorded_append, recorded_warnings rfl, reportedRefusals, Lexicon.refusals_textual]
    exact List.append_nil _

/-- A document with strings, numbers, a date and tables, whose entries are reported and not fatal. -/
theorem build_of_document_kinds :
    let text := "[data]\nname = \"x\"\ncount = 1\nday = 1979-05-27\n[data.who]\nlabel = 5\n[data.none]\n"
    let around : Surroundings := ⟨.ofList [("o.toml", .text text)], []⟩
    ∃ options ctx, (Options.load around [.file "o.toml" true]).result = .ok options ∧
      (build (some options) (.recorder 1)).result = .ok ctx ∧
      Assoc.keys ctx.lexicon.entries = ["name", "day", "who"] ∧
      recorded 1 (build (some options) (.recorder 1)).events =
        [.unknownVariableType "count" "integer",
          .unknownVariableType "none" "table without label"] := by
  intro text around
  have reading : around.files.read "o.toml" = .text text := rfl
  have read : Toml.readDocument text =
      some [("data", .table [("name", .string "x"), ("count", .integer 1),
        ("day", .datetime (.date ⟨1979, 5, 27⟩)), ("who", .table [("label", .integer 5)]),
        ("none", .table [])])] := by
    dsimp only [text]
    decide +kernel
  have valid : Options.decode .merged [] = .ok {} := rfl
  obtain ⟨options, loaded, rfl, _, accepted⟩ :=
    build_of_document reading read rfl (List.cons_ne_nil _ _) valid true 1
  have lenient : Severity.warn ≠ .error := by decide
  obtain ⟨ctx, built, keys, _, reported⟩ := accepted (.inl lenient)
  exact ⟨_, ctx, loaded, built, keys, reported⟩

/-- A date is neither a string nor a table with a label, but it is a variable after all: under `error`
nothing is refused. -/
theorem build_keeps_datetime :
    let text := "severity = \"error\"\n[data]\nday = 1979-05-27\n"
    let around : Surroundings := ⟨.ofList [("o.toml", .text text)], []⟩
    let day : Value := .datetime (.date ⟨1979, 5, 27⟩)
    Toml.readDocument text = some [("severity", .string "error"), ("data", .table [("day", day)])] ∧
      Variable.isSimple day = false ∧ Variable.isStructured day = false ∧
      Variable.describe day = "datetime" ∧
      ∃ options ctx, (Options.load around [.file "o.toml" true]).result = .ok options ∧
        options.severity = .error ∧ (build (some options) (.recorder 1)).result = .ok ctx ∧
        ctx.lexicon.get? "day" = some (.simple "1979-05-27") := by
  intro text around day
  have reading : around.files.read "o.toml" = .text text := rfl
  have read : Toml.readDocument text =
      some [("severity", .string "error"), ("data", .table [("day", day)])] := by
    dsimp only [text, day]
    decide +kernel
  have valid : Options.decode .merged [("severity", .string "error")] =
      .ok { severity := .error } := rfl
  have loaded := Options.load_document reading read rfl valid true
  exact ⟨read, rfl, rfl, rfl, _, _, loaded, rfl, rfl, rfl⟩

end Context

end InlineVariables
