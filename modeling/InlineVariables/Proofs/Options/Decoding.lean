import InlineVariables.Options.Decode

/-!
What a table must be to be decoded, field by field: at most one entry has a name of the field, and its
value fits (`Options.Parts.addAll_ok_iff`). The first entry that does not fit is the failure
(`Options.Parts.addAll_error`).
-/

namespace InlineVariables

open Toml (Value Table Provenance)

namespace Field

/-- What a value of the field is decoded to. -/
@[reducible] def Part : Field → Type
  | .data => Table
  | .severity => Severity
  | .ignoreMissing => Bool
  | .className => String

def decode (origin : Provenance) : (f : Field) → Value → Except DecodeError f.Part
  | .data, value => Options.decodeData origin value
  | .severity, value => Options.decodeSeverity value
  | .ignoreMissing, value => Options.decodeFlag origin value
  | .className, value => Options.decodeText origin value

/-- The names of a field: its own and, of two fields, another spelling. -/
def names : Field → List String
  | .data => ["data"]
  | .severity => ["severity"]
  | .ignoreMissing => ["ignore_missing_variables", "ignoreMissingVariables"]
  | .className => ["class_name", "className"]

theorem ofName?_eq_some_iff {f : Field} {name : String} : ofName? name = some f ↔ name ∈ f.names := by
  unfold ofName?
  cases f <;> simp only [names, List.mem_cons, List.not_mem_nil, or_false] <;> grind

/-- The entries that have a name of the field. -/
def named (f : Field) (entries : List (String × Value)) : List (String × Value) :=
  entries.filter fun entry => ofName? entry.1 = some f

theorem mem_named {f : Field} {entries : List (String × Value)} {entry : String × Value} :
    entry ∈ f.named entries ↔ entry ∈ entries ∧ ofName? entry.1 = some f := by
  rw [named, List.mem_filter, decide_eq_true_iff]

theorem mem_named_of_unique {f : Field} {t : Table} (unique : (Assoc.keys t).Nodup) {name : String}
    {value : Value} :
    (name, value) ∈ f.named t ↔ Assoc.get? t name = some value ∧ ofName? name = some f := by
  rw [mem_named]
  exact and_congr_left fun _ => ⟨Assoc.get?_of_mem unique, Assoc.mem_of_get?⟩

theorem named_cons (f : Field) (key : String) (value : Value) (rest : List (String × Value)) :
    f.named ((key, value) :: rest) =
      if ofName? key = some f then (key, value) :: f.named rest else f.named rest := by
  by_cases own : ofName? key = some f
  · rw [if_pos own]
    exact List.filter_cons_of_pos (decide_eq_true own)
  · rw [if_neg own]
    exact List.filter_cons_of_neg (by simpa using own)

theorem named_append (f : Field) (first second : List (String × Value)) :
    f.named (first ++ second) = f.named first ++ f.named second :=
  List.filter_append first second

theorem named_eq_nil {f : Field} {t : Table}
    (absent : ∀ name, ofName? name = some f → Assoc.get? t name = none) : f.named t = [] := by
  refine List.eq_nil_iff_forall_not_mem.2 ?_
  rintro ⟨name, value⟩ member
  obtain ⟨there, own⟩ := mem_named.1 member
  have gone := Assoc.get?_eq_none_iff.1 (absent name own)
  exact gone (List.mem_map_of_mem (f := (·.1)) there)

theorem named_eq_singleton {f : Field} {t : Table} (unique : (Assoc.keys t).Nodup) {name : String}
    {value : Value} (own : ofName? name = some f) (found : Assoc.get? t name = some value)
    (only : ∀ entry ∈ f.named t, entry.1 = name) : f.named t = [(name, value)] := by
  have here : (name, value) ∈ f.named t := mem_named.2 ⟨Assoc.mem_of_get? found, own⟩
  have part : (f.named t).Sublist t := List.filter_sublist
  have distinct : ((f.named t).map (·.1)).Nodup := unique.sublist (part.map _)
  match shape : f.named t with
  | [] => rw [shape] at here; cases here
  | [entry] =>
    rw [shape] at here
    rw [List.mem_singleton.1 here]
  | first :: second :: rest =>
    rw [shape] at only distinct
    have same : first.1 = second.1 :=
      (only first List.mem_cons_self).trans (only second (by simp)).symm
    have again : first.1 ∈ (second :: rest).map (·.1) := by
      rw [same]
      exact List.mem_cons_self
    exact absurd again (List.nodup_cons.1 distinct).1

theorem named_eq_toList {f : Field} {name : String}
    (single : ∀ other, ofName? other = some f ↔ other = name) {t : Table}
    (unique : (Assoc.keys t).Nodup) :
    f.named t = ((Assoc.get? t name).map fun value => (name, value)).toList := by
  cases found : Assoc.get? t name with
  | none =>
    refine named_eq_nil fun other own => ?_
    rw [(single other).1 own]
    exact found
  | some value =>
    refine named_eq_singleton unique ((single name).2 rfl) found ?_
    rintro ⟨other, _⟩ member
    exact (single other).1 (mem_named.1 member).2

theorem named_erase {f : Field} {key : String} (other : ofName? key ≠ some f) (t : Table) :
    f.named (Assoc.erase t key) = f.named t := by
  induction t with
  | nil => rfl
  | cons entry rest ih =>
    obtain ⟨k, value⟩ := entry
    rw [Assoc.erase]
    by_cases same : k = key
    · rw [if_pos same, named_cons, same, if_neg other]
    · rw [if_neg same, named_cons, named_cons, ih]

theorem ofName?_data_iff {name : String} : ofName? name = some .data ↔ name = "data" := by
  rw [ofName?_eq_some_iff, names, List.mem_singleton]

theorem ofName?_severity_iff {name : String} : ofName? name = some .severity ↔ name = "severity" := by
  rw [ofName?_eq_some_iff, names, List.mem_singleton]

end Field

namespace Options

variable {origin : Provenance}

theorem decodeData_table_ok {t data : Table} :
    decodeData origin (.table t) = .ok data ↔ Table.restore origin t = .ok data := by
  cases restored : Table.restore origin t with
  | error located =>
    obtain ⟨path, e⟩ := located
    have fails : decodeData origin (.table t) = .error ⟨path, restoreCause origin e⟩ := by
      cases origin <;> simp only [decodeData, restored]
    rw [fails]
    simp
  | ok found =>
    have yields : decodeData origin (.table t) = .ok found := by
      cases origin <;> simp only [decodeData, restored]
    rw [yields]
    simp

namespace Parts

def get (parts : Parts) : (f : Field) → Option f.Part
  | .data => parts.data
  | .severity => parts.severity
  | .ignoreMissing => parts.ignoreMissing
  | .className => parts.className

def put (parts : Parts) : (f : Field) → f.Part → Parts
  | .data, data => { parts with data := some data }
  | .severity, severity => { parts with severity := some severity }
  | .ignoreMissing, b => { parts with ignoreMissing := some b }
  | .className, text => { parts with className := some text }

theorem has_eq (parts : Parts) (f : Field) : parts.has f = (parts.get f).isSome := by
  cases f <;> rfl

theorem set_eq (parts : Parts) (value : Value) (f : Field) :
    parts.set origin value f = (f.decode origin value).map (parts.put f) := by
  cases f <;> rfl

@[simp] theorem get_put_self (parts : Parts) (f : Field) (part : f.Part) :
    (parts.put f part).get f = some part := by
  cases f <;> rfl

theorem get_put_other (parts : Parts) {f g : Field} (part : g.Part) (different : f ≠ g) :
    (parts.put g part).get f = parts.get f := by
  cases f <;> cases g <;> first | rfl | exact absurd rfl different

theorem get_empty (f : Field) : ({} : Parts).get f = none := by
  cases f <;> rfl

theorem ext_get {a b : Parts} (same : ∀ f, a.get f = b.get f) : a = b := by
  have data := same .data
  have severity := same .severity
  have ignoreMissing := same .ignoreMissing
  have className := same .className
  obtain ⟨_, _, _, _⟩ := a
  obtain ⟨_, _, _, _⟩ := b
  cases data
  cases severity
  cases ignoreMissing
  cases className
  rfl

theorem add_of_unnamed {key : String} (other : Field.ofName? key = none) (parts : Parts)
    (value : Value) : parts.add origin key value = .ok parts := by
  unfold add
  rw [other]

theorem add_of_named {key : String} {f : Field} (own : Field.ofName? key = some f) (parts : Parts)
    (value : Value) :
    parts.add origin key value =
      if (parts.get f).isSome then .error ⟨[], .duplicateField f⟩
      else
        match f.decode origin value with
        | .ok part => .ok (parts.put f part)
        | .error e => .error ⟨key :: e.path, e.cause⟩ := by
  unfold add
  rw [own]
  dsimp only
  rw [has_eq, set_eq]
  cases f.decode origin value <;> rfl

theorem addAll_cons (parts : Parts) (key : String) (value : Value) (rest : List (String × Value)) :
    addAll origin parts ((key, value) :: rest) =
      match parts.add origin key value with
      | .ok parts => addAll origin parts rest
      | .error e => .error e := rfl

end Parts

/-- How a field goes through entries that have its names: it is kept when there are none, and a single
entry decodes to it when it was not given before. -/
inductive Decoded (origin : Provenance) (f : Field) :
    Option f.Part → List (String × Value) → Option f.Part → Prop
  | kept (before : Option f.Part) : Decoded origin f before [] before
  | taken {key : String} {value : Value} {part : f.Part} (fits : f.decode origin value = .ok part) :
    Decoded origin f none [(key, value)] (some part)

namespace Decoded

variable {f : Field}

theorem nil_iff {before after : Option f.Part} :
    Decoded origin f before [] after ↔ after = before := by
  constructor
  · rintro ⟨⟩
    rfl
  · rintro rfl
    exact .kept _

theorem cons_iff {before after : Option f.Part} {key : String} {value : Value}
    {rest : List (String × Value)} :
    Decoded origin f before ((key, value) :: rest) after ↔
      before = none ∧ rest = [] ∧ ∃ part, f.decode origin value = .ok part ∧ after = some part := by
  constructor
  · intro decoded
    cases decoded with
    | taken fits => exact ⟨rfl, rfl, _, fits, rfl⟩
  · rintro ⟨rfl, rfl, part, fits, rfl⟩
    exact .taken fits

theorem of_some_iff {part : f.Part} {entries : List (String × Value)} {after : Option f.Part} :
    Decoded origin f (some part) entries after ↔ entries = [] ∧ after = some part := by
  cases entries with
  | nil => rw [nil_iff]; simp
  | cons entry rest => rw [cons_iff]; simp

theorem same_entry {before after : Option f.Part} {entries : List (String × Value)}
    (decoded : Decoded origin f before entries after) {a b : String × Value} (first : a ∈ entries)
    (second : b ∈ entries) : a = b := by
  cases decoded with
  | kept => cases first
  | taken fits => rw [List.mem_singleton.1 first, List.mem_singleton.1 second]

end Decoded

namespace Parts

theorem addAll_iff {start parts : Parts} {entries : List (String × Value)} :
    addAll origin start entries = .ok parts ↔
      ∀ f, Decoded origin f (start.get f) (f.named entries) (parts.get f) := by
  -- An entry concerns the one field that has its name, and leaves the others as they are.
  induction entries generalizing start with
  | nil =>
    constructor
    · intro done f
      cases done
      exact .kept _
    · intro decoded
      exact congrArg _ (ext_get fun f => (Decoded.nil_iff.1 (decoded f)).symm)
  | cons entry rest ih =>
    obtain ⟨key, value⟩ := entry
    rw [addAll_cons]
    cases own : Field.ofName? key with
    | none =>
      rw [add_of_unnamed own]
      dsimp only
      rw [ih]
      refine forall_congr' fun f => ?_
      rw [Field.named_cons, own, if_neg nofun]
    | some g =>
      have mine : g.named ((key, value) :: rest) = (key, value) :: g.named rest := by
        rw [Field.named_cons, if_pos own]
      have others : ∀ f, f ≠ g → f.named ((key, value) :: rest) = f.named rest := by
        intro f different
        rw [Field.named_cons, own, if_neg fun same => different (Option.some.inj same).symm]
      rw [add_of_named own]
      cases before : start.get g with
      | some part =>
        refine iff_of_false nofun fun decoded => ?_
        have twice := decoded g
        rw [mine, before, Decoded.cons_iff] at twice
        cases twice.1
      | none =>
        simp only [Option.isSome_none, Bool.false_eq_true, if_false]
        cases fits : g.decode origin value with
        | error e =>
          refine iff_of_false nofun fun decoded => ?_
          have single := decoded g
          rw [mine, Decoded.cons_iff, fits] at single
          obtain ⟨_, _, _, absurd_ok, _⟩ := single
          cases absurd_ok
        | ok part =>
          dsimp only
          rw [ih]
          refine forall_congr' fun f => ?_
          by_cases same : f = g
          · subst same
            rw [mine, get_put_self, before, Decoded.of_some_iff, Decoded.cons_iff, fits]
            simp
          · rw [others f same, get_put_other start part same]

/-- A table is decoded when every field has one name at most in it, with a value that fits. -/
theorem addAll_ok_iff {parts : Parts} {entries : List (String × Value)} :
    addAll origin {} entries = .ok parts ↔
      ∀ f, Decoded origin f none (f.named entries) (parts.get f) := by
  rw [addAll_iff]
  simp only [get_empty]

theorem exists_addAll_iff {entries : List (String × Value)} :
    (∃ parts, addAll origin {} entries = .ok parts) ↔
      ∀ f : Field, ∃ part, Decoded origin f none (f.named entries) part := by
  constructor
  · rintro ⟨parts, done⟩ f
    exact ⟨parts.get f, addAll_ok_iff.1 done f⟩
  · intro each
    obtain ⟨data, dataDecoded⟩ := each .data
    obtain ⟨severity, severityDecoded⟩ := each .severity
    obtain ⟨ignoreMissing, ignoreMissingDecoded⟩ := each .ignoreMissing
    obtain ⟨className, classNameDecoded⟩ := each .className
    refine ⟨⟨data, severity, ignoreMissing, className⟩, addAll_ok_iff.2 fun f => ?_⟩
    cases f <;> assumption

theorem addAll_error {start : Parts} {entries : List (String × Value)} {e : DecodeError}
    (fails : addAll origin start entries = .error e) :
    ∃ before key value after parts, entries = before ++ (key, value) :: after ∧
      addAll origin start before = .ok parts ∧ parts.add origin key value = .error e := by
  induction entries generalizing start with
  | nil => cases fails
  | cons entry rest ih =>
    obtain ⟨key, value⟩ := entry
    rw [addAll_cons] at fails
    cases step : start.add origin key value with
    | error e' =>
      rw [step] at fails
      cases fails
      exact ⟨[], key, value, rest, start, rfl, rfl, step⟩
    | ok next =>
      rw [step] at fails
      obtain ⟨before, k, v, after, parts, rfl, reached, failed⟩ := ih fails
      refine ⟨(key, value) :: before, k, v, after, parts, rfl, ?_, failed⟩
      rw [addAll_cons, step]
      exact reached

theorem add_error {parts : Parts} {key : String} {value : Value} {e : DecodeError}
    (fails : parts.add origin key value = .error e) :
    ∃ f, Field.ofName? key = some f ∧
      ((parts.get f).isSome = true ∧ e = ⟨[], .duplicateField f⟩ ∨
        ∃ cause, f.decode origin value = .error cause ∧ e = ⟨key :: cause.path, cause.cause⟩) := by
  cases own : Field.ofName? key with
  | none =>
    rw [add_of_unnamed own] at fails
    cases fails
  | some f =>
    rw [add_of_named own] at fails
    refine ⟨f, rfl, ?_⟩
    split at fails
    · rename_i given
      cases fails
      exact .inl ⟨given, rfl⟩
    · cases unfit : f.decode origin value with
      | ok part =>
        rw [unfit] at fails
        cases fails
      | error cause =>
        rw [unfit] at fails
        cases fails
        exact .inr ⟨cause, rfl, rfl⟩

end Parts

theorem decode_ok_iff {t : Table} {options : Options} :
    decode origin t = .ok options ↔
      ∃ parts, Parts.addAll origin {} t = .ok parts ∧ options = parts.toOptions := by
  unfold decode
  cases Parts.addAll origin {} t with
  | error e => exact iff_of_false nofun nofun
  | ok parts =>
    constructor
    · rintro ⟨⟩
      exact ⟨parts, rfl, rfl⟩
    · rintro ⟨_, ⟨⟩, rfl⟩
      rfl

theorem exists_decode_iff {t : Table} :
    (∃ options, decode origin t = .ok options) ↔
      ∀ f : Field, ∃ part, Decoded origin f none (f.named t) part := by
  rw [← Parts.exists_addAll_iff]
  constructor
  · rintro ⟨options, done⟩
    obtain ⟨parts, added, _⟩ := decode_ok_iff.1 done
    exact ⟨parts, added⟩
  · rintro ⟨parts, added⟩
    exact ⟨parts.toOptions, decode_ok_iff.2 ⟨parts, added, rfl⟩⟩

theorem decode_error_iff {t : Table} {e : DecodeError} :
    decode origin t = .error e ↔ Parts.addAll origin {} t = .error e := by
  unfold decode
  cases Parts.addAll origin {} t with
  | error e' =>
    constructor
    · rintro ⟨⟩
      rfl
    · rintro ⟨⟩
      rfl
  | ok parts => exact iff_of_false nofun nofun

theorem decode_of_erase {t data restored : Table} (unique : (Assoc.keys t).Nodup)
    (found : Assoc.get? t "data" = some (.table data))
    (fits : Table.restore .merged data = .ok restored) {settings : Options}
    (valid : decode .merged (Assoc.erase t "data") = .ok settings) :
    decode .merged t = .ok { settings with data := restored } := by
  obtain ⟨parts, added, rfl⟩ := decode_ok_iff.1 valid
  have decoded := Parts.addAll_ok_iff.1 added
  refine decode_ok_iff.2 ⟨parts.put .data restored, Parts.addAll_ok_iff.2 fun f => ?_, rfl⟩
  by_cases same : f = .data
  · subst same
    rw [Field.named_eq_toList (fun _ => Field.ofName?_data_iff) unique, found, Parts.get_put_self]
    exact .taken (decodeData_table_ok.2 fits)
  · have other : Field.ofName? "data" ≠ some f := by
      rw [Field.ofName?_data_iff.2 rfl]
      exact fun found => same (Option.some.inj found).symm
    rw [Parts.get_put_other parts restored same, ← Field.named_erase other]
    exact decoded f

end Options

end InlineVariables
