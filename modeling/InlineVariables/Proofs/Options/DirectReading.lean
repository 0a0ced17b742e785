import InlineVariables.Proofs.Options.Decoding
import InlineVariables.Proofs.Options.Loading
import InlineVariables.Proofs.Toml.EveryKey

/-!
Two ways from a text to options: its table is decoded as it stands, or the text is a file that is
merged, alone, before it is decoded. They differ in what a datetime becomes. On a table without datetimes
and without the marker both decode every field alike (`Field.decode_of_plain`), and a decoded table has
data only as a table (`Options.data_of_decode`). So both ways end alike (`Options.ofDocument?_iff_load`).
-/

namespace InlineVariables.Toml

mutual

/-- No datetime stands inside the value. -/
def Value.Timeless : Value → Prop
  | .datetime _ => False
  | .array items => Value.AllTimeless items
  | .table entries => Table.Timeless entries
  | _ => True

def Value.AllTimeless : List Value → Prop
  | [] => True
  | item :: items => item.Timeless ∧ Value.AllTimeless items

def Table.Timeless : List (String × Value) → Prop
  | [] => True
  | (_, value) :: rest => value.Timeless ∧ Table.Timeless rest

end

theorem Table.timeless_iff {t : Table} : Table.Timeless t ↔ ∀ entry ∈ t, entry.2.Timeless := by
  induction t with
  | nil => simp [Timeless]
  | cons entry rest ih =>
    obtain ⟨key, value⟩ := entry
    rw [Timeless, ih, List.forall_mem_cons]

/-- Restoring the value changes nothing, wherever it comes from. -/
structure Value.Plain (value : Value) : Prop where
  timeless : value.Timeless
  unmarked : value.Unmarked

/-- There is no datetime in the table, and the marker is no key of it or of a table inside it. -/
structure Table.Plain (t : Table) : Prop where
  timeless : Table.Timeless t
  markerless : Table.EveryKey (· ≠ datetimeMarker) t

theorem Table.Plain.of_mem {t : Table} (plain : t.Plain) {entry : String × Value}
    (member : entry ∈ t) : entry.2.Plain :=
  ⟨timeless_iff.1 plain.timeless entry member,
    Value.unmarked_of_everyKey _ (everyKey_iff.1 plain.markerless entry member).2⟩

variable {origin : Provenance}

mutual

theorem Value.restore_of_timeless : ∀ value : Value, value.Timeless → value.Unmarked →
    value.restore origin = .ok value
  | .array items, timeless, fine => by
    rw [Value.restore, Value.restoreItems_of_timeless items timeless fine]
    rfl
  | .table entries, timeless, fine => by
    rw [Value.restore_table fine.1, Value.restoreEntries_of_timeless entries timeless fine.2]
    rfl
  | .datetime _, timeless, _ => timeless.elim
  | .string _, _, _ => rfl
  | .integer _, _, _ => rfl
  | .float _, _, _ => rfl
  | .boolean _, _, _ => rfl

theorem Value.restoreItems_of_timeless : ∀ items : List Value, Value.AllTimeless items →
    Value.AllUnmarked items → Value.restoreItems origin items = .ok items
  | [], _, _ => rfl
  | item :: items, timeless, fine => by
    rw [Value.restoreItems, Value.restore_of_timeless item timeless.1 fine.1,
      Value.restoreItems_of_timeless items timeless.2 fine.2]
    rfl

theorem Value.restoreEntries_of_timeless : ∀ entries : List (String × Value),
    Table.Timeless entries → Table.ValuesUnmarked entries →
      Value.restoreEntries origin entries = .ok entries
  | [], _, _ => rfl
  | (key, value) :: rest, timeless, fine => by
    rw [Value.restoreEntries, Value.restore_of_timeless value timeless.1 fine.1,
      Value.restoreEntries_of_timeless rest timeless.2 fine.2]
    rfl

end

theorem Table.Plain.restore_eq {t : Table} (plain : t.Plain) : t.restore origin = .ok t :=
  Value.restoreEntries_of_timeless t plain.timeless
    (Table.valuesUnmarked_of_everyKey t plain.markerless)

theorem readDocument_of_plain {text : String} {t : Table} (read : readEntriesOf text = some t)
    (plain : t.Plain) : readDocument text = some t := by
  unfold readDocument
  rw [read]
  dsimp only
  rw [plain.restore_eq]
  rfl

end InlineVariables.Toml

namespace InlineVariables

open Toml (Value Table Provenance)

/-! ### Decoding whatever the origin -/

namespace Options

variable {origin other : Provenance}

theorem describe_of_timeless {value : Value} (timeless : value.Timeless) :
    describe origin value = describe other value := by
  cases value with
  | datetime => exact timeless.elim
  | _ => rfl

theorem unexpected_of_timeless {α : Type} {value : Value} (timeless : value.Timeless)
    (expected : String) :
    (unexpected origin value expected : Except DecodeError α) = unexpected other value expected := by
  unfold unexpected
  rw [describe_of_timeless timeless]

theorem decodeData_of_plain {value : Value} (plain : value.Plain) :
    decodeData origin value =
      match value with
      | .table entries => .ok entries
      | value => unexpected .merged value "a map" := by
  cases value with
  | datetime => exact plain.timeless.elim
  | table entries =>
    exact decodeData_table_ok.2
      (Value.restoreEntries_of_timeless entries plain.timeless plain.unmarked.2)
  | _ => cases origin <;> exact unexpected_of_timeless plain.timeless "a map"

theorem decodeFlag_of_timeless {value : Value} (timeless : value.Timeless) :
    decodeFlag origin value = decodeFlag other value := by
  cases value with
  | boolean => rfl
  | _ => exact unexpected_of_timeless timeless "a boolean"

theorem decodeText_of_timeless {value : Value} (timeless : value.Timeless) :
    decodeText origin value = decodeText .merged value := by
  cases value with
  | datetime => exact timeless.elim
  | string => cases origin <;> rfl
  | _ => cases origin <;> exact unexpected_of_timeless timeless "a string"

end Options

theorem Field.decode_of_plain {origin : Provenance} (f : Field) {value : Value}
    (plain : value.Plain) : f.decode origin value = f.decode .merged value := by
  cases f with
  | data => exact (Options.decodeData_of_plain plain).trans (Options.decodeData_of_plain plain).symm
  | severity => rfl
  | ignoreMissing => exact Options.decodeFlag_of_timeless plain.timeless
  | className => exact Options.decodeText_of_timeless plain.timeless

namespace Options

variable {origin : Provenance}

theorem Parts.addAll_of_plain {entries : List (String × Value)}
    (plain : ∀ entry ∈ entries, entry.2.Plain) (parts : Parts) :
    addAll origin parts entries = addAll .merged parts entries := by
  induction entries generalizing parts with
  | nil => rfl
  | cons entry rest ih =>
    obtain ⟨key, value⟩ := entry
    obtain ⟨first, others⟩ := List.forall_mem_cons.1 plain
    have step : parts.add origin key value = parts.add .merged key value := by
      cases own : Field.ofName? key with
      | none => rw [add_of_unnamed own, add_of_unnamed own]
      | some f => rw [add_of_named own, add_of_named own, f.decode_of_plain first]
    rw [addAll_cons, addAll_cons, step]
    cases parts.add .merged key value with
    | error e => rfl
    | ok next => exact ih others next

theorem decode_of_plain {t : Table} (plain : t.Plain) : decode origin t = decode .merged t := by
  unfold decode
  rw [Parts.addAll_of_plain fun _ member => plain.of_mem member]

theorem data_of_decode {t : Table} {options : Options} (unique : (Assoc.keys t).Nodup)
    (plain : t.Plain) (decoded : decode origin t = .ok options) {value : Value}
    (found : Assoc.get? t "data" = some value) : ∃ data, value = .table data := by
  -- The field `data` has a single name, so what is decoded for it is what the table has there.
  obtain ⟨part, fits⟩ := exists_decode_iff.1 ⟨options, decoded⟩ .data
  rw [Field.named_eq_toList (fun _ => Field.ofName?_data_iff) unique, found] at fits
  obtain ⟨_, _, data, yields, _⟩ := Decoded.cons_iff.1 fits
  have there : value.Plain := plain.of_mem (Assoc.mem_of_get? found)
  have decoded : decodeData origin value = .ok data := yields
  rw [decodeData_of_plain there] at decoded
  split at decoded
  · exact ⟨_, rfl⟩
  · cases decoded

/-! ### The two ways -/

theorem ofDocument?_eq_some_iff {text : String} {options : Options} :
    ofDocument? text = some options ↔
      ∃ t, Toml.readEntriesOf text = some t ∧ decode .document t = .ok options := by
  unfold ofDocument?
  cases Toml.readEntriesOf text with
  | none => simp
  | some t =>
    dsimp only
    cases decoded : decode .document t with
    | error e => simp [Except.toOption, decoded]
    | ok found => simp [Except.toOption, decoded]

/-- A text without datetimes and without the marker is read directly exactly when a file with this text
is loaded, and both ways give the same options. -/
theorem ofDocument?_iff_load {around : Surroundings} {path text : String}
    (reading : around.files.read path = .text text)
    (plain : ∀ t, Toml.readEntriesOf text = some t → t.Plain) (required : Bool) (options : Options) :
    ofDocument? text = some options ↔
      (load around [.file path required]).result = .ok options := by
  rw [ofDocument?_eq_some_iff]
  cases read : Toml.readEntriesOf text with
  | none =>
    have malformed : Toml.readDocument text = none := by
      rw [Toml.readDocument, read]
    rw [load_malformed reading malformed required]
    exact iff_of_false (by simp) nofun
  | some t =>
    -- A file is refused before it is decoded when its data are no table; decoding refuses those too.
    have here : t.Plain := plain t read
    have unique := Toml.readEntriesOf_distinct read
    rw [load_file_iff reading (Toml.readDocument_of_plain read here) required]
    constructor
    · rintro ⟨_, ⟨⟩, decoded⟩
      refine ⟨fun _ found => data_of_decode unique.1 here decoded found, ?_⟩
      rw [← decode_of_plain here]
      exact decoded
    · rintro ⟨_, decoded⟩
      refine ⟨t, rfl, ?_⟩
      rw [decode_of_plain here]
      exact decoded

/-- A name in its other spelling, a severity as a table and nested data are read alike. -/
theorem ofDocument?_iff_load_spellings :
    let text := "className = \"v\"\nseverity.silent = {}\n[data.who]\nlabel = \"W\"\nsince = [1]\n"
    let around : Surroundings := ⟨.ofList [("o.toml", .text text)], []⟩
    let data : Table := [("who", .table [("label", .string "W"), ("since", .array [.integer 1])])]
    let options : Options := ⟨data, .silent, false, some "v"⟩
    around.files.read "o.toml" = .text text ∧
      (∀ t, Toml.readEntriesOf text = some t → t.Plain) ∧
      ofDocument? text = some options ∧
      (load around [.file "o.toml" true]).result = .ok options := by
  intro text around data options
  have reading : around.files.read "o.toml" = .text text := rfl
  have read : Toml.readEntriesOf text =
      some [("className", .string "v"), ("severity", .table [("silent", .table [])]),
        ("data", .table data)] := by
    dsimp only [text, data]
    decide +kernel
  have plain : ∀ t, Toml.readEntriesOf text = some t → t.Plain := by
    intro t found
    obtain rfl := Option.some.inj (read.symm.trans found)
    constructor
    · simp [data, Table.Timeless, Value.Timeless, Value.AllTimeless]
    · simp [data, Table.EveryKey, Value.EveryKey, Value.EveryItemKey, Toml.datetimeMarker]
  have direct : ofDocument? text = some options := ofDocument?_eq_some_iff.2 ⟨_, read, rfl⟩
  exact ⟨reading, plain, direct, (ofDocument?_iff_load reading plain true options).1 direct⟩

end Options

end InlineVariables
