import InlineVariables.Options.Loader
import InlineVariables.Proofs.Options.Decoding
import InlineVariables.Proofs.Toml.EveryKey

/-!
Which merged tables are options, and which options they are. `Field.Gives` lists the values of each field.
A table is decoded when every field is given once at most, under one of its names and with such a value
(`Options.Acceptable`, `Options.GivenBy`); the order of entries, the names used and other entries do not
count. What is refused is refused at the first entry that does not fit. Main statement:
`Options.decode_by_settings`.
-/

namespace InlineVariables

open Toml (Value Table Provenance datetimeMarker)

namespace Field

/-- The values that a field takes, each with what is read from it. -/
inductive Gives : (f : Field) → Value → f.Part → Prop
  | data (entries : Table) : Gives .data (.table entries) (Table.textual entries)
  | severity {name : String} {severity : Severity} (known : Severity.parse name = .ok severity) :
    Gives .severity (.string name) severity
  | severityOverTable {name : String} {severity : Severity}
    (known : Severity.parse name = .ok severity) :
    Gives .severity (.table [(name, .table [])]) severity
  | severityOverArray {name : String} {severity : Severity}
    (known : Severity.parse name = .ok severity) :
    Gives .severity (.table [(name, .array [])]) severity
  | ignoreMissing (b : Bool) : Gives .ignoreMissing (.boolean b) b
  | className (text : String) : Gives .className (.string text) text
  | classNameOfDatetime (d : Toml.Datetime) : Gives .className (.datetime d) d.written

end Field

namespace Options

theorem severityNamed_ok_iff {name : String} {severity : Severity} :
    severityNamed name = .ok severity ↔ Severity.parse name = .ok severity := by
  unfold severityNamed Severity.parse
  cases Severity.ofText? name <;> simp

theorem checkPayload_ok_iff {payload : Value} :
    checkPayload payload = .ok () ↔ payload = .table [] ∨ payload = .array [] := by
  unfold checkPayload
  split <;> simp_all

theorem decodeSeverity_single_ok_iff {name : String} {payload : Value} {severity : Severity} :
    decodeSeverity (.table [(name, payload)]) = .ok severity ↔
      Severity.parse name = .ok severity ∧ (payload = .table [] ∨ payload = .array []) := by
  rw [← severityNamed_ok_iff, ← checkPayload_ok_iff]
  show (severityNamed name >>= fun found => checkPayload payload >>= fun _ => pure found) = _ ↔ _
  rcases severityNamed name with e | found
  · exact iff_of_false nofun nofun
  rcases checkPayload payload with e | ⟨⟩
  · exact iff_of_false nofun nofun
  exact ⟨fun same => ⟨same, rfl⟩, And.left⟩

theorem gives_of_decodeSeverity {value : Value} {severity : Severity}
    (fits : decodeSeverity value = .ok severity) : Field.severity.Gives value severity := by
  match value with
  | .string name => exact .severity (severityNamed_ok_iff.1 fits)
  | .table [] => cases fits
  | .table [(name, payload)] =>
    obtain ⟨known, rfl | rfl⟩ := decodeSeverity_single_ok_iff.1 fits
    · exact .severityOverTable known
    · exact .severityOverArray known
  | .table (_ :: _ :: _) => cases fits
  | .integer _ => cases fits
  | .float _ => cases fits
  | .boolean _ => cases fits
  | .datetime _ => cases fits
  | .array _ => cases fits

end Options

namespace Field

/-- A value is decoded to what it gives. Without the marker among its keys, data are restored as they are
but for their datetimes. -/
theorem decode_ok_iff_gives {f : Field} {value : Value}
    (plain : value.EveryKey (· ≠ datetimeMarker)) {part : f.Part} :
    f.decode .merged value = .ok part ↔ f.Gives value part := by
  constructor
  · intro fits
    cases f with
    | data =>
      cases value with
      | table entries =>
        have restored := Options.decodeData_table_ok.1 fits
        rw [Table.restore_of_everyKey plain] at restored
        cases restored
        exact .data entries
      | _ => cases fits
    | severity => exact Options.gives_of_decodeSeverity fits
    | ignoreMissing =>
      cases value with
      | boolean =>
        cases fits
        exact .ignoreMissing _
      | _ => cases fits
    | className =>
      cases value with
      | string =>
        cases fits
        exact .className _
      | datetime =>
        cases fits
        exact .classNameOfDatetime _
      | _ => cases fits
  · intro gives
    cases gives with
    | data entries => exact Options.decodeData_table_ok.2 (Table.restore_of_everyKey plain)
    | severity known => exact Options.severityNamed_ok_iff.2 known
    | severityOverTable known => exact Options.decodeSeverity_single_ok_iff.2 ⟨known, .inl rfl⟩
    | severityOverArray known => exact Options.decodeSeverity_single_ok_iff.2 ⟨known, .inr rfl⟩
    | ignoreMissing b => rfl
    | className text => rfl
    | classNameOfDatetime d => rfl

/-- What a table gives for a field: one value under one of its names, or none under any. -/
inductive Setting (f : Field) (t : Table) : Option f.Part → Prop
  | absent (none_given : ∀ name ∈ f.names, Assoc.get? t name = none) : Setting f t none
  | given {name : String} {value : Value} {part : f.Part} (own : name ∈ f.names)
    (found : Assoc.get? t name = some value)
    (only : ∀ other ∈ f.names, other ≠ name → Assoc.get? t other = none)
    (gives : f.Gives value part) : Setting f t (some part)

variable {f : Field} {t : Table}

theorem mem_named_iff (unique : (Assoc.keys t).Nodup) {name : String} {value : Value} :
    (name, value) ∈ f.named t ↔ name ∈ f.names ∧ Assoc.get? t name = some value := by
  rw [mem_named_of_unique unique, ofName?_eq_some_iff, and_comm]

theorem decoded_iff_setting (unique : (Assoc.keys t).Nodup)
    (plain : Table.EveryKey (· ≠ datetimeMarker) t) {part : Option f.Part} :
    Options.Decoded .merged f none (f.named t) part ↔ f.Setting t part := by
  constructor
  · intro decoded
    cases shape : f.named t with
    | nil =>
      rw [shape, Options.Decoded.nil_iff] at decoded
      subst decoded
      refine .absent fun name own => Option.eq_none_iff_forall_ne_some.2 fun value found => ?_
      have inside := (mem_named_iff unique).2 ⟨own, found⟩
      rw [shape] at inside
      cases inside
    | cons entry rest =>
      obtain ⟨name, value⟩ := entry
      rw [shape, Options.Decoded.cons_iff] at decoded
      obtain ⟨_, rfl, part, fits, rfl⟩ := decoded
      have here : (name, value) ∈ f.named t := by
        rw [shape]
        exact List.mem_cons_self
      obtain ⟨own, found⟩ := (mem_named_iff unique).1 here
      refine .given own found ?_ ((decode_ok_iff_gives (plain.get? found)).1 fits)
      intro other owned different
      refine Option.eq_none_iff_forall_ne_some.2 fun value' found' => different ?_
      have there := (mem_named_iff unique).2 ⟨owned, found'⟩
      rw [shape, List.mem_singleton] at there
      exact congrArg Prod.fst there
  · intro setting
    cases setting with
    | absent none_given =>
      rw [named_eq_nil fun name own => none_given name (ofName?_eq_some_iff.1 own)]
      exact .kept none
    | @given name value part own found only gives =>
      have single : f.named t = [(name, value)] := by
        refine named_eq_singleton unique (ofName?_eq_some_iff.2 own) found ?_
        rintro ⟨other, value'⟩ member
        obtain ⟨owned, found'⟩ := (mem_named_iff unique).1 member
        by_cases same : other = name
        · exact same
        · cases (only other owned same).symm.trans found'
      rw [single]
      exact .taken ((decode_ok_iff_gives (plain.get? found)).2 gives)

theorem exists_setting_iff :
    (∃ part, f.Setting t part) ↔
      (∀ name ∈ f.names, ∀ other ∈ f.names, Assoc.contains t name = true →
        Assoc.contains t other = true → name = other) ∧
      ∀ name ∈ f.names, ∀ value, Assoc.get? t name = some value → ∃ part, f.Gives value part := by
  constructor
  · rintro ⟨part, setting⟩
    cases setting with
    | absent none_given =>
      refine ⟨fun name own _ _ there _ => ?_, fun name own value found => ?_⟩
      · rw [Assoc.contains, none_given name own] at there
        cases there
      · rw [none_given name own] at found
        cases found
    | @given name value part own found only gives =>
      have single : ∀ other ∈ f.names, Assoc.contains t other = true → other = name := by
        intro other owned there
        by_cases same : other = name
        · exact same
        · rw [Assoc.contains, only other owned same] at there
          cases there
      refine ⟨fun a ownedA b ownedB inA inB => ?_, fun other owned value' found' => ?_⟩
      · exact (single a ownedA inA).trans (single b ownedB inB).symm
      · obtain rfl := single other owned (Option.isSome_of_eq_some found')
        cases found.symm.trans found'
        exact ⟨part, gives⟩
  · rintro ⟨once, fits⟩
    by_cases some_given : ∃ name ∈ f.names, Assoc.contains t name = true
    · obtain ⟨name, own, there⟩ := some_given
      obtain ⟨value, found⟩ := Option.isSome_iff_exists.1 there
      obtain ⟨part, gives⟩ := fits name own value found
      refine ⟨some part, .given own found (fun other owned different => ?_) gives⟩
      refine Option.eq_none_iff_forall_ne_some.2 fun value' found' => different ?_
      exact once other owned name own (Option.isSome_of_eq_some found') there
    · refine ⟨none, .absent fun name own => ?_⟩
      refine Option.eq_none_iff_forall_ne_some.2 fun value found => some_given ⟨name, own, ?_⟩
      exact Option.isSome_of_eq_some found

end Field

namespace Options

/-- Every field is given under one of its names at most, with a value that it takes. -/
structure Acceptable (t : Table) : Prop where
  once : ∀ f : Field, ∀ name ∈ f.names, ∀ other ∈ f.names, Assoc.contains t name = true →
    Assoc.contains t other = true → name = other
  fits : ∀ f : Field, ∀ name ∈ f.names, ∀ value, Assoc.get? t name = some value →
    ∃ part, f.Gives value part

/-- The options have what a table gives for each field, and a default where it gives nothing. -/
structure GivenBy (t : Table) (options : Options) : Prop where
  data : ∃ part, Field.data.Setting t part ∧ options.data = part.getD []
  severity : ∃ part, Field.severity.Setting t part ∧ options.severity = part.getD .warn
  ignoreMissing : ∃ part, Field.ignoreMissing.Setting t part ∧ options.ignoreMissing = part.getD false
  className : Field.className.Setting t options.className

variable {t : Table}

theorem exists_decode_iff_acceptable (unique : (Assoc.keys t).Nodup)
    (plain : Table.EveryKey (· ≠ datetimeMarker) t) :
    (∃ options, decode .merged t = .ok options) ↔ Acceptable t := by
  simp only [exists_decode_iff, Field.decoded_iff_setting unique plain, Field.exists_setting_iff]
  exact ⟨fun each => ⟨fun f => (each f).1, fun f => (each f).2⟩, fun accepted f =>
    ⟨accepted.once f, accepted.fits f⟩⟩

theorem decode_ok_iff_givenBy (unique : (Assoc.keys t).Nodup)
    (plain : Table.EveryKey (· ≠ datetimeMarker) t) {options : Options} :
    decode .merged t = .ok options ↔ options.GivenBy t := by
  rw [decode_ok_iff]
  simp only [Parts.addAll_ok_iff, Field.decoded_iff_setting unique plain]
  constructor
  · rintro ⟨parts, settings, rfl⟩
    exact ⟨⟨_, settings .data, rfl⟩, ⟨_, settings .severity, rfl⟩, ⟨_, settings .ignoreMissing, rfl⟩,
      settings .className⟩
  · rintro ⟨⟨data, dataGiven, sameData⟩, ⟨severity, severityGiven, sameSeverity⟩,
      ⟨ignoreMissing, flagGiven, sameFlag⟩, classNameGiven⟩
    refine ⟨⟨data, severity, ignoreMissing, options.className⟩, ?_, ?_⟩
    · intro f
      cases f <;> assumption
    · obtain ⟨_, _, _, _⟩ := options
      cases sameData
      cases sameSeverity
      cases sameFlag
      rfl

/-! ### What does not count -/

variable {u : Table} {origin : Provenance}

/-- The tables give each field the same values, under whichever of its names. -/
def SameSettings (t u : Table) : Prop :=
  ∀ f : Field, ((f.named t).map (·.2)).Perm ((f.named u).map (·.2))

theorem SameSettings.symm (same : SameSettings t u) : SameSettings u t :=
  fun f => (same f).symm

theorem SameSettings.of_perm (permuted : t.Perm u) : SameSettings t u :=
  fun _ => (permuted.filter _).map _

theorem SameSettings.of_respelled {f : Field} {name other : String} (own : name ∈ f.names)
    (owned : other ∈ f.names) (before : Table) (value : Value) (after : Table) :
    SameSettings (before ++ (name, value) :: after) (before ++ (other, value) :: after) := by
  intro g
  rw [← Field.ofName?_eq_some_iff] at own owned
  rw [Field.named_append, Field.named_append, Field.named_cons, Field.named_cons, own, owned]
  split <;> simp only [List.map_append, List.map_cons] <;> rfl

theorem Decoded.of_values {f : Field} {before after : Option f.Part}
    {first second : List (String × Value)}
    (values : (first.map (·.2)).Perm (second.map (·.2)))
    (decoded : Decoded origin f before first after) : Decoded origin f before second after := by
  cases decoded with
  | kept =>
    rw [List.map_eq_nil_iff.1 values.nil_eq.symm]
    exact .kept before
  | @taken key value part fits =>
    obtain ⟨⟨name, value'⟩, rfl, same⟩ := List.map_eq_singleton_iff.1 (List.perm_singleton.1 values.symm)
    obtain rfl : value' = value := same
    exact .taken fits

theorem decode_ok_of_sameSettings (same : SameSettings t u) {options : Options}
    (done : decode origin t = .ok options) : decode origin u = .ok options := by
  obtain ⟨parts, added, rfl⟩ := decode_ok_iff.1 done
  have decoded := Parts.addAll_ok_iff.1 added
  exact decode_ok_iff.2 ⟨parts, Parts.addAll_ok_iff.2 fun f => (decoded f).of_values (same f), rfl⟩

theorem decode_ok_congr (same : SameSettings t u) {options : Options} :
    decode origin t = .ok options ↔ decode origin u = .ok options :=
  ⟨decode_ok_of_sameSettings same, decode_ok_of_sameSettings same.symm⟩

/-- The entries of a table that have a name of a field. -/
def settingsOf (t : Table) : Table :=
  t.filter fun entry => (Field.ofName? entry.1).isSome

theorem Parts.addAll_settingsOf (start : Parts) (t : Table) :
    addAll origin start (settingsOf t) = addAll origin start t := by
  induction t generalizing start with
  | nil => rfl
  | cons entry rest ih =>
    obtain ⟨key, value⟩ := entry
    rw [settingsOf] at ih ⊢
    cases own : Field.ofName? key with
    | none => rw [List.filter_cons_of_neg (by simp [own]), addAll_cons, add_of_unnamed own, ih]
    | some f =>
      rw [List.filter_cons_of_pos (by simp [own]), addAll_cons, addAll_cons]
      cases start.add origin key value with
      | error e => rfl
      | ok parts => exact ih parts

theorem decode_settingsOf (t : Table) : decode origin (settingsOf t) = decode origin t := by
  rw [decode, Parts.addAll_settingsOf, decode]

/-! ### Refusals -/

/-- After the entries before it, an entry is the second of its field, or its value is none that the
field takes. -/
inductive Offends (before : Table) (key : String) (value : Value) : Prop
  | again {f : Field} {other : String} (own : key ∈ f.names) (owned : other ∈ f.names)
    (given : Assoc.contains before other = true)
  | unfit {f : Field} (own : key ∈ f.names) (refused : ∀ part, ¬ f.Gives value part)

theorem Parts.offends_of_add_error {before : Table} {parts : Parts}
    (reached : addAll .merged {} before = .ok parts) {key : String} {value : Value}
    (plain : value.EveryKey (· ≠ datetimeMarker)) {e : DecodeError}
    (fails : parts.add .merged key value = .error e) : Offends before key value := by
  obtain ⟨f, named, ⟨given, _⟩ | ⟨cause, unfit, _⟩⟩ := add_error fails
  · have own := Field.ofName?_eq_some_iff.1 named
    have decoded := addAll_ok_iff.1 reached f
    cases shape : f.named before with
    | nil =>
      rw [shape, Decoded.nil_iff] at decoded
      rw [decoded] at given
      cases given
    | cons entry rest =>
      have inside : entry ∈ f.named before := by
        rw [shape]
        exact List.mem_cons_self
      obtain ⟨member, owned⟩ := Field.mem_named.1 inside
      exact .again own (Field.ofName?_eq_some_iff.1 owned)
        (Assoc.contains_iff.2 (List.mem_map_of_mem (f := (·.1)) member))
  · refine .unfit (Field.ofName?_eq_some_iff.1 named) fun part gives => ?_
    cases unfit.symm.trans ((Field.decode_ok_iff_gives plain).2 gives)

theorem Parts.addAll_append_of_ok {start parts : Parts} {before : List (String × Value)}
    (reached : addAll origin start before = .ok parts) (rest : List (String × Value)) :
    addAll origin start (before ++ rest) = addAll origin parts rest := by
  induction before generalizing start with
  | nil =>
    cases reached
    rfl
  | cons entry before ih =>
    obtain ⟨key, value⟩ := entry
    rw [List.cons_append, addAll_cons]
    rw [addAll_cons] at reached
    cases step : start.add origin key value with
    | error e =>
      rw [step] at reached
      cases reached
    | ok next =>
      rw [step] at reached
      exact ih reached

theorem decode_error_at_first (plain : Table.EveryKey (· ≠ datetimeMarker) t) {e : DecodeError}
    (fails : decode .merged t = .error e) :
    ∃ before key value after, t = before ++ (key, value) :: after ∧
      (∃ options, decode .merged before = .ok options) ∧ Offends before key value ∧
      ∀ rest, decode .merged (before ++ (key, value) :: rest) = .error e := by
  obtain ⟨before, key, value, after, parts, rfl, reached, failed⟩ :=
    Parts.addAll_error (decode_error_iff.1 fails)
  have inner : value.EveryKey (· ≠ datetimeMarker) :=
    (Table.everyKey_iff.1 plain (key, value) (by simp)).2
  refine ⟨before, key, value, after, rfl, ⟨_, decode_ok_iff.2 ⟨parts, reached, rfl⟩⟩,
    Parts.offends_of_add_error reached inner failed, fun rest => decode_error_iff.2 ?_⟩
  rw [Parts.addAll_append_of_ok reached, Parts.addAll_cons, failed]

/-- A merged table is decoded by the settings it gives. Neither the order of its entries, nor which of
its names a field is given under, nor other entries make a difference to that; and the first entry that
does not fit decides the refusal. -/
theorem decode_by_settings (unique : (Assoc.keys t).Nodup)
    (plain : Table.EveryKey (· ≠ datetimeMarker) t) :
    ((∃ options, decode .merged t = .ok options) ↔ Acceptable t) ∧
    (∀ options, decode .merged t = .ok options ↔ options.GivenBy t) ∧
    (∀ u, t.Perm u → ∀ options, decode .merged t = .ok options ↔ decode .merged u = .ok options) ∧
    (∀ u, settingsOf t = settingsOf u → decode .merged t = decode .merged u) ∧
    (∀ (f : Field) (name other : String) (before : Table) (value : Value) (after : Table),
      name ∈ f.names → other ∈ f.names → t = before ++ (name, value) :: after → ∀ options,
        decode .merged t = .ok options ↔
          decode .merged (before ++ (other, value) :: after) = .ok options) ∧
    ∀ e, decode .merged t = .error e → ∃ before key value after,
      t = before ++ (key, value) :: after ∧ (∃ options, decode .merged before = .ok options) ∧
        Offends before key value ∧
        ∀ rest, decode .merged (before ++ (key, value) :: rest) = .error e := by
  refine ⟨exists_decode_iff_acceptable unique plain, fun _ => decode_ok_iff_givenBy unique plain,
    ?_, ?_, ?_, fun _ => decode_error_at_first plain⟩
  · intro u permuted options
    exact decode_ok_congr (.of_perm permuted)
  · intro u same
    rw [← decode_settingsOf t, same, decode_settingsOf]
  · intro f name other before value after own owned shape options
    rw [shape]
    exact decode_ok_congr (.of_respelled own owned before value after)

private def founding : Value :=
  .datetime (.date ⟨1948, 4, 7⟩)

private def founded : Table :=
  [("who", .table [("label", .string "WHO"), ("since", .array [founding])])]

private def foundedTextual : Table :=
  [("who", .table [("label", .string "WHO"), ("since", .array [.string "1948-04-07"])])]

private def beforeClass : Table :=
  [("severity", .table [("silent", .array [])]), ("title", .integer 3), ("data", .table founded)]

private def afterClass : Table :=
  [("ignore_missing_variables", .boolean true)]

private def classed : Table :=
  beforeClass ++ ("className", founding) :: afterClass

private def untitled : Table :=
  [("severity", .table [("silent", .array [])]), ("data", .table founded), ("className", founding),
    ("ignore_missing_variables", .boolean true), ("", .boolean false)]

private def twiceClassed : Table :=
  [("class_name", .string "v"), ("className", .boolean true), ("severity", .string "loud")]

/-- A severity in its longer spelling, a class name that is a date, and a date below the data; and a table
that has two faults, of which the first is the failure. -/
theorem decode_by_settings_founded :
    let options : Options :=
      { data := foundedTextual, severity := .silent, ignoreMissing := true,
        className := some "1948-04-07" }
    (Assoc.keys classed).Nodup ∧ Table.EveryKey (· ≠ datetimeMarker) classed ∧ Acceptable classed ∧
      options.GivenBy classed ∧ decode .merged classed = .ok options ∧
      decode .merged classed.reverse = .ok options ∧ decode .merged untitled = .ok options ∧
      decode .merged (beforeClass ++ ("class_name", founding) :: afterClass) = .ok options ∧
      ¬ Acceptable twiceClassed ∧
      ∃ before key value after, twiceClassed = before ++ (key, value) :: after ∧
        (∃ options, decode .merged before = .ok options) ∧ Offends before key value ∧
        ∀ rest, decode .merged (before ++ (key, value) :: rest) =
          .error ⟨[], .duplicateField .className⟩ := by
  intro options
  have unique : (Assoc.keys classed).Nodup := by
    simp [Assoc.keys, classed, beforeClass, afterClass]
  have plain : Table.EveryKey (· ≠ datetimeMarker) classed := by
    simp [classed, beforeClass, afterClass, founded, founding, Table.EveryKey, Value.EveryKey,
      Value.EveryItemKey, datetimeMarker]
  have done : decode .merged classed = .ok options := rfl
  have permuted : classed.Perm classed.reverse := (List.reverse_perm _).symm
  obtain ⟨accepted, given, ordered, others, respelled, _⟩ := decode_by_settings unique plain
  have unique' : (Assoc.keys twiceClassed).Nodup := by
    simp [Assoc.keys, twiceClassed]
  have plain' : Table.EveryKey (· ≠ datetimeMarker) twiceClassed := by
    simp [twiceClassed, Table.EveryKey, Value.EveryKey, datetimeMarker]
  have refused : decode .merged twiceClassed = .error ⟨[], .duplicateField .className⟩ := rfl
  obtain ⟨accepted', _, _, _, _, first⟩ := decode_by_settings unique' plain'
  refine ⟨unique, plain, accepted.1 ⟨_, done⟩, (given _).1 done, done, (ordered _ permuted _).1 done,
    (others untitled rfl).symm.trans done, ?_, ?_, first _ refused⟩
  · exact (respelled .className "className" "class_name" beforeClass founding _ (by simp [Field.names])
      (by simp [Field.names]) rfl _).1 done
  · intro acceptable
    obtain ⟨options', done'⟩ := accepted'.2 acceptable
    cases refused.symm.trans done'

end Options

end InlineVariables
