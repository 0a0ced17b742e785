import InlineVariables.Proofs.Options.Decoding
import InlineVariables.Proofs.Options.Loading
import Mathlib.Data.List.Basic

/-!
Later sources over earlier ones. Of a setting that each source gives as a text or a truth value, the
last one is taken (`Entry.get?_gathered`), but only under one name: the names of a setting are told
apart while sources are merged, and a setting that is left with two names is refused when the merged
table is decoded (`Options.load_overrides`).
-/

namespace InlineVariables

open Toml (Value Table)

namespace Entry

/-- The table that entries make by themselves. -/
def own (entries : List Entry) : Table :=
  mergeAll [] entries

theorem nodup_own (entries : List Entry) : (Assoc.keys (own entries)).Nodup := by
  rw [own, mergeAll_eq_merge]
  have start : (Assoc.keys ([] : Table)).Nodup := List.nodup_nil
  exact Toml.Table.nodup_merge start _

theorem get?_mergeAll {entries : List Entry} {name : String}
    (plain : ∀ value, Assoc.get? (own entries) name = some value → value.table? = none) (t : Table) :
    Assoc.get? (mergeAll t entries) name =
      (Assoc.get? (own entries) name).or (Assoc.get? t name) := by
  unfold own at plain ⊢
  rw [mergeAll_eq_merge, mergeAll_eq_merge]
  rw [mergeAll_eq_merge] at plain
  simp only [Toml.Table.get?_merge, Assoc.get?_nil] at plain ⊢
  exact Value.overAll_eq_or plain _

/-- The last value given under a name is left, when no source gives a table under it. -/
theorem get?_gathered {given : List (List Entry)} {name : String}
    (plain : ∀ entries ∈ given, ∀ value, Assoc.get? (own entries) name = some value →
      value.table? = none) :
    Assoc.get? (own given.flatten) name =
      (given.filterMap fun entries => Assoc.get? (own entries) name).getLast? := by
  -- From any table, so that the induction can go over the sources from the first on.
  suffices from_any : ∀ t : Table, Assoc.get? (mergeAll t given.flatten) name =
      ((given.filterMap fun entries => Assoc.get? (own entries) name).getLast?).or
        (Assoc.get? t name) by
    rw [own, from_any, Assoc.get?_nil, Option.or_none]
  induction given with
  | nil => exact fun t => rfl
  | cons entries rest ih =>
    intro t
    obtain ⟨here, there⟩ := List.forall_mem_cons.1 plain
    rw [List.flatten_cons, mergeAll_append, ih there, get?_mergeAll here, List.filterMap_cons]
    cases Assoc.get? (own entries) name with
    | none => rfl
    | some value =>
      rw [List.getLast?_cons]
      cases (rest.filterMap fun entries => Assoc.get? (own entries) name).getLast? <;> rfl

end Entry

namespace Field

/-- What entries give for the field, under the first of its names that they have. -/
def given? (f : Field) (entries : List Entry) : Option Value :=
  (f.named (Entry.own entries)).head?.map (·.2)

/-- All that sources give for the field, with the names used. -/
def offers (f : Field) (given : List (List Entry)) : List (String × Value) :=
  given.flatMap fun entries => f.named (Entry.own entries)

/-- The field is given under two of its names, by one source or by two. -/
def Mixed (f : Field) (given : List (List Entry)) : Prop :=
  ∃ a ∈ f.offers given, ∃ b ∈ f.offers given, a.1 ≠ b.1

/-- All values that sources give for the field have a property. -/
def Only (f : Field) (property : Value → Prop) (given : List (List Entry)) : Prop :=
  ∀ entry ∈ f.offers given, property entry.2

variable {f : Field} {given : List (List Entry)}

theorem mem_offers {entry : String × Value} :
    entry ∈ f.offers given ↔ ∃ entries ∈ given, entry ∈ f.named (Entry.own entries) :=
  List.mem_flatMap

theorem mem_named_own {entries : List Entry} {name : String} {value : Value}
    (own : ofName? name = some f) :
    (name, value) ∈ f.named (Entry.own entries) ↔
      Assoc.get? (Entry.own entries) name = some value := by
  rw [mem_named_of_unique (Entry.nodup_own entries)]
  exact and_iff_left own

section

variable (plain : f.Only (fun value => value.table? = none) given)

include plain

theorem get?_gathered {name : String} (own : ofName? name = some f) :
    Assoc.get? (Entry.own given.flatten) name =
      (given.filterMap fun entries => Assoc.get? (Entry.own entries) name).getLast? := by
  refine Entry.get?_gathered fun entries member value found => ?_
  exact plain _ (mem_offers.2 ⟨entries, member, (mem_named_own own).2 found⟩)

theorem offered_of_gathered {entry : String × Value}
    (member : entry ∈ f.named (Entry.own given.flatten)) : entry ∈ f.offers given := by
  obtain ⟨name, value⟩ := entry
  obtain ⟨_, own⟩ := mem_named.1 member
  have found := (mem_named_own own).1 member
  rw [get?_gathered plain own] at found
  obtain ⟨entries, there, same⟩ := List.mem_filterMap.1 (List.mem_of_getLast? found)
  exact mem_offers.2 ⟨entries, there, (mem_named_own own).2 same⟩

theorem gathered_of_offered {name : String} {value : Value} (offered : (name, value) ∈ f.offers given) :
    ∃ last, (name, last) ∈ f.named (Entry.own given.flatten) := by
  obtain ⟨entries, member, there⟩ := mem_offers.1 offered
  obtain ⟨_, own⟩ := mem_named.1 there
  have found := (mem_named_own own).1 there
  have listed : value ∈ given.filterMap fun entries => Assoc.get? (Entry.own entries) name :=
    List.mem_filterMap.2 ⟨entries, member, found⟩
  have ends := List.getLast?_eq_some_getLast (List.ne_nil_of_mem listed)
  rw [← get?_gathered plain own] at ends
  exact ⟨_, (mem_named_own own).2 ends⟩

theorem mixed_iff :
    f.Mixed given ↔
      ∃ a ∈ f.named (Entry.own given.flatten), ∃ b ∈ f.named (Entry.own given.flatten), a.1 ≠ b.1 := by
  constructor
  · rintro ⟨a, first, b, second, different⟩
    obtain ⟨u, aLeft⟩ := gathered_of_offered plain first
    obtain ⟨v, bLeft⟩ := gathered_of_offered plain second
    exact ⟨_, aLeft, _, bLeft, different⟩
  · rintro ⟨a, aLeft, b, bLeft, different⟩
    exact ⟨a, offered_of_gathered plain aLeft, b, offered_of_gathered plain bLeft, different⟩

omit plain in
theorem given?_eq {name : String} (own : ofName? name = some f)
    (only : ∀ entry ∈ f.offers given, entry.1 = name) {entries : List Entry}
    (member : entries ∈ given) : f.given? entries = Assoc.get? (Entry.own entries) name := by
  unfold given?
  cases shape : f.named (Entry.own entries) with
  | nil =>
    cases found : Assoc.get? (Entry.own entries) name with
    | none => rfl
    | some value =>
      have inside := (mem_named_own own).2 found
      rw [shape] at inside
      cases inside
  | cons entry rest =>
    have inside : entry ∈ f.named (Entry.own entries) := by
      rw [shape]
      exact List.mem_cons_self
    obtain ⟨k, value⟩ := entry
    obtain rfl : k = name := only _ (mem_offers.2 ⟨entries, member, inside⟩)
    exact ((mem_named_own own).1 inside).symm

/-- Of a field under one name the last value is left, or nothing when none is given. -/
theorem named_gathered (pure : ¬ f.Mixed given) :
    (f.named (Entry.own given.flatten) = [] ∧ given.filterMap f.given? = []) ∨
      ∃ name value, f.named (Entry.own given.flatten) = [(name, value)] ∧
        (given.filterMap f.given?).getLast? = some value := by
  -- The name of the first offer is the name of all.
  cases all : f.offers given with
  | nil =>
    have none_offered : ∀ entry, entry ∉ f.offers given := by
      rw [all]
      exact fun entry => List.not_mem_nil
    refine .inl ⟨?_, ?_⟩
    · refine List.eq_nil_iff_forall_not_mem.2 fun entry left => ?_
      exact none_offered entry (offered_of_gathered plain left)
    · refine List.filterMap_eq_nil_iff.2 fun entries member => ?_
      have nothing : f.named (Entry.own entries) = [] :=
        List.eq_nil_iff_forall_not_mem.2 fun entry there =>
          none_offered entry (mem_offers.2 ⟨entries, member, there⟩)
      rw [given?, nothing]
      rfl
  | cons first rest =>
    obtain ⟨name, value⟩ := first
    have offered : (name, value) ∈ f.offers given := by
      rw [all]
      exact List.mem_cons_self
    have only : ∀ entry ∈ f.offers given, entry.1 = name := by
      intro entry other
      by_contra different
      exact pure ⟨entry, other, _, offered, different⟩
    obtain ⟨last, left⟩ := gathered_of_offered plain offered
    obtain ⟨_, own⟩ := mem_named.1 left
    have found := (mem_named_own own).1 left
    refine .inr ⟨name, last, ?_, ?_⟩
    · refine named_eq_singleton (Entry.nodup_own _) own found fun entry inside => ?_
      exact only entry (offered_of_gathered plain inside)
    · rw [List.filterMap_congr fun entries member => given?_eq own only member,
        ← get?_gathered plain own]
      exact found

end

theorem Only.imp {property weaker : Value → Prop} (fine : f.Only property given)
    (implies : ∀ value, property value → weaker value) : f.Only weaker given :=
  fun entry offered => implies entry.2 (fine entry offered)

theorem Only.last {property : Value → Prop} (fine : f.Only property given) {value : Value}
    (last : (given.filterMap f.given?).getLast? = some value) : property value := by
  obtain ⟨entries, member, gives⟩ := List.mem_filterMap.1 (List.mem_of_getLast? last)
  obtain ⟨entry, first, rfl⟩ := Option.map_eq_some_iff.1 gives
  exact fine entry (mem_offers.2 ⟨entries, member, List.mem_of_mem_head? first⟩)

end Field

namespace Options

/-- A text is given for the class name and a truth value for the flag. What is left for the data is a
table, and what is left for the severity can be decoded. -/
structure WellTyped (given : List (List Entry)) : Prop where
  data : ∀ value, Assoc.get? (Entry.own given.flatten) "data" = some value → ∃ t, value = .table t
  severity : ∀ value, Assoc.get? (Entry.own given.flatten) "severity" = some value →
    ∃ severity, decodeSeverity value = .ok severity
  className : Field.className.Only (fun value => ∃ text, value = .string text) given
  ignoreMissing : Field.ignoreMissing.Only (fun value => ∃ b, value = .boolean b) given

/-- The values under the data can be restored: every table in it that begins with the marker of
datetimes is one. -/
def Restorable (given : List (List Entry)) : Prop :=
  ∀ t, Assoc.get? (Entry.own given.flatten) "data" = some (.table t) →
    ∃ restored, Table.restore .merged t = .ok restored

variable {f : Field} {given : List (List Entry)}

theorem not_mixed_of_decoded (plain : f.Only (fun value => value.table? = none) given)
    {part : Option f.Part}
    (decoded : Decoded .merged f none (f.named (Entry.own given.flatten)) part) :
    ¬ f.Mixed given := by
  rw [Field.mixed_iff plain]
  rintro ⟨a, first, b, second, different⟩
  exact different (congrArg _ (decoded.same_entry first second))

theorem decoded_iff_not_mixed (plain : f.Only (fun value => value.table? = none) given)
    (fits : f.Only (fun value => ∃ part, f.decode .merged value = .ok part) given) :
    (∃ part, Decoded .merged f none (f.named (Entry.own given.flatten)) part) ↔ ¬ f.Mixed given := by
  constructor
  · rintro ⟨part, decoded⟩
    exact not_mixed_of_decoded plain decoded
  · intro pure
    rcases Field.named_gathered plain pure with ⟨none_left, _⟩ | ⟨name, value, left, last⟩
    · rw [none_left]
      exact ⟨none, .kept none⟩
    · obtain ⟨part, fit⟩ := fits.last last
      rw [left]
      exact ⟨some part, .taken fit⟩

theorem decoded_last (plain : f.Only (fun value => value.table? = none) given) {part : Option f.Part}
    (decoded : Decoded .merged f none (f.named (Entry.own given.flatten)) part) :
    ((given.filterMap f.given?).getLast? = none ∧ part = none) ∨
      ∃ value decodedTo, (given.filterMap f.given?).getLast? = some value ∧
        f.decode .merged value = .ok decodedTo ∧ part = some decodedTo := by
  have pure := not_mixed_of_decoded plain decoded
  rcases Field.named_gathered plain pure with ⟨none_left, none_given⟩ | ⟨name, value, left, last⟩
  · rw [none_left] at decoded
    exact .inl ⟨by rw [none_given]; rfl, Decoded.nil_iff.1 decoded⟩
  · rw [left] at decoded
    obtain ⟨_, _, decodedTo, fit, same⟩ := Decoded.cons_iff.1 decoded
    exact .inr ⟨value, decodedTo, last, fit, same⟩

namespace WellTyped

theorem className_plain (typed : WellTyped given) :
    Field.className.Only (fun value => value.table? = none) given := by
  refine typed.className.imp ?_
  rintro _ ⟨text, rfl⟩
  rfl

theorem ignoreMissing_plain (typed : WellTyped given) :
    Field.ignoreMissing.Only (fun value => value.table? = none) given := by
  refine typed.ignoreMissing.imp ?_
  rintro _ ⟨b, rfl⟩
  rfl

theorem className_fits (typed : WellTyped given) :
    Field.className.Only (fun value => ∃ text, decodeText .merged value = .ok text) given := by
  refine typed.className.imp ?_
  rintro _ ⟨text, rfl⟩
  exact ⟨text, rfl⟩

theorem ignoreMissing_fits (typed : WellTyped given) :
    Field.ignoreMissing.Only (fun value => ∃ b, decodeFlag .merged value = .ok b) given := by
  refine typed.ignoreMissing.imp ?_
  rintro _ ⟨b, rfl⟩
  exact ⟨b, rfl⟩

theorem data_iff (typed : WellTyped given) :
    (∃ part, Decoded .merged .data none (Field.data.named (Entry.own given.flatten)) part) ↔
      Restorable given := by
  rw [Field.named_eq_toList (fun _ => Field.ofName?_data_iff) (Entry.nodup_own _)]
  cases found : Assoc.get? (Entry.own given.flatten) "data" with
  | none =>
    refine iff_of_true ⟨none, .kept none⟩ ?_
    intro t left
    rw [found] at left
    cases left
  | some value =>
    obtain ⟨t, rfl⟩ := typed.data value found
    constructor
    · rintro ⟨part, decoded⟩ u left
      rw [found] at left
      cases left
      obtain ⟨_, _, data, fit, _⟩ := Decoded.cons_iff.1 decoded
      exact ⟨data, decodeData_table_ok.1 fit⟩
    · intro restorable
      obtain ⟨data, restored⟩ := restorable t found
      exact ⟨some data, .taken (decodeData_table_ok.2 restored)⟩

theorem exists_severity (typed : WellTyped given) :
    ∃ part, Decoded .merged .severity none (Field.severity.named (Entry.own given.flatten)) part := by
  rw [Field.named_eq_toList (fun _ => Field.ofName?_severity_iff) (Entry.nodup_own _)]
  cases found : Assoc.get? (Entry.own given.flatten) "severity" with
  | none => exact ⟨none, .kept none⟩
  | some value =>
    obtain ⟨severity, fit⟩ := typed.severity value found
    exact ⟨some severity, .taken fit⟩

theorem exists_decode_iff (typed : WellTyped given) :
    (∃ options, decode .merged (Entry.own given.flatten) = .ok options) ↔
      Restorable given ∧ ¬ Field.ignoreMissing.Mixed given ∧ ¬ Field.className.Mixed given := by
  rw [Options.exists_decode_iff, ← typed.data_iff,
    ← decoded_iff_not_mixed typed.ignoreMissing_plain typed.ignoreMissing_fits,
    ← decoded_iff_not_mixed typed.className_plain typed.className_fits]
  constructor
  · intro each
    exact ⟨each .data, each .ignoreMissing, each .className⟩
  · rintro ⟨data, ignoreMissing, className⟩ f
    cases f with
    | data => exact data
    | severity => exact typed.exists_severity
    | ignoreMissing => exact ignoreMissing
    | className => exact className

theorem settings_of_decode (typed : WellTyped given) {options : Options}
    (done : decode .merged (Entry.own given.flatten) = .ok options) :
    (given.filterMap Field.className.given?).getLast? = options.className.map .string ∧
      (given.filterMap Field.ignoreMissing.given?).getLast?.getD (.boolean false) =
        .boolean options.ignoreMissing := by
  obtain ⟨parts, added, rfl⟩ := decode_ok_iff.1 done
  have decoded := Parts.addAll_ok_iff.1 added
  constructor
  · change _ = (parts.get .className).map Value.string
    rcases decoded_last typed.className_plain (decoded .className) with
      ⟨nothing, absent⟩ | ⟨value, text, last, fit, taken⟩
    · rw [nothing, absent]
      rfl
    · obtain ⟨own, rfl⟩ := typed.className.last last
      cases fit
      rw [last, taken]
      rfl
  · change _ = Value.boolean ((parts.get .ignoreMissing).getD false)
    rcases decoded_last typed.ignoreMissing_plain (decoded .ignoreMissing) with
      ⟨nothing, absent⟩ | ⟨value, b, last, fit, taken⟩
    · rw [nothing, absent]
      rfl
    · obtain ⟨own, rfl⟩ := typed.ignoreMissing.last last
      cases fit
      rw [last, taken]
      rfl

theorem names_of_twice {before after : Table} {key : String} {value : Value} {parts : Parts}
    (unique : (Assoc.keys (before ++ (key, value) :: after)).Nodup)
    (own : Field.ofName? key = some f) (reached : Parts.addAll .merged {} before = .ok parts)
    (twice : (parts.get f).isSome = true) :
    ∃ a ∈ f.named (before ++ (key, value) :: after),
      ∃ b ∈ f.named (before ++ (key, value) :: after), a.1 ≠ b.1 := by
  have decoded := Parts.addAll_ok_iff.1 reached f
  obtain ⟨first, there⟩ : ∃ first, first ∈ f.named before := by
    cases shape : f.named before with
    | nil =>
      rw [shape] at decoded
      rw [Decoded.nil_iff.1 decoded] at twice
      cases twice
    | cons first rest => exact ⟨first, List.mem_cons_self⟩
  obtain ⟨inside, named⟩ := Field.mem_named.1 there
  obtain ⟨k, v⟩ := first
  refine ⟨(k, v), Field.mem_named.2 ⟨List.mem_append_left _ inside, named⟩, (key, value),
    Field.mem_named.2 ⟨by simp, own⟩, ?_⟩
  rintro rfl
  have earlier : k ∈ Assoc.keys before := List.mem_map_of_mem (f := (·.1)) inside
  have fresh := Assoc.not_contains_of_nodup unique
  rw [Assoc.contains_iff.2 earlier] at fresh
  cases fresh

theorem mixed_of_names (typed : WellTyped given) {a b : String × Value}
    (first : a ∈ f.named (Entry.own given.flatten)) (second : b ∈ f.named (Entry.own given.flatten))
    (different : a.1 ≠ b.1) : f.Mixed given := by
  have names := (Field.mem_named.1 first).2
  have others := (Field.mem_named.1 second).2
  cases f with
  | data =>
    rw [Field.ofName?_data_iff] at names others
    exact absurd (names.trans others.symm) different
  | severity =>
    rw [Field.ofName?_severity_iff] at names others
    exact absurd (names.trans others.symm) different
  | ignoreMissing =>
    exact (Field.mixed_iff typed.ignoreMissing_plain).2 ⟨a, first, b, second, different⟩
  | className => exact (Field.mixed_iff typed.className_plain).2 ⟨a, first, b, second, different⟩

theorem fits_of_left (typed : WellTyped given) (restorable : Restorable given) {key : String}
    {value : Value} (own : Field.ofName? key = some f)
    (left : Assoc.get? (Entry.own given.flatten) key = some value) :
    ∃ part, f.decode .merged value = .ok part := by
  have there := (Field.mem_named_own own).2 left
  cases f with
  | data =>
    obtain rfl := Field.ofName?_data_iff.1 own
    obtain ⟨t, rfl⟩ := typed.data value left
    obtain ⟨data, restored⟩ := restorable t left
    exact ⟨data, decodeData_table_ok.2 restored⟩
  | severity =>
    obtain rfl := Field.ofName?_severity_iff.1 own
    exact typed.severity value left
  | ignoreMissing =>
    exact typed.ignoreMissing_fits _ (Field.offered_of_gathered typed.ignoreMissing_plain there)
  | className =>
    exact typed.className_fits _ (Field.offered_of_gathered typed.className_plain there)

/-- When the data can be restored, the only failure is a setting under two names. -/
theorem mixed_of_error (typed : WellTyped given) (restorable : Restorable given) {e : DecodeError}
    (fails : decode .merged (Entry.own given.flatten) = .error e) :
    ∃ f : Field, f.Mixed given ∧ e = ⟨[], .duplicateField f⟩ := by
  obtain ⟨before, key, value, after, parts, shape, reached, failed⟩ :=
    Parts.addAll_error (decode_error_iff.1 fails)
  have unique := Entry.nodup_own given.flatten
  obtain ⟨f, own, ⟨twice, rfl⟩ | ⟨cause, unfit, rfl⟩⟩ := Parts.add_error failed
  · rw [shape] at unique
    obtain ⟨a, first, b, second, different⟩ := names_of_twice unique own reached twice
    rw [← shape] at first second
    exact ⟨f, typed.mixed_of_names first second different, rfl⟩
  · have left : Assoc.get? (Entry.own given.flatten) key = some value := by
      refine Assoc.get?_of_mem unique ?_
      rw [shape]
      simp
    obtain ⟨part, fit⟩ := typed.fits_of_left restorable own left
    cases fit.symm.trans unfit

end WellTyped

/-- Of sources that all yield entries, the last value that is given for a setting is taken, under any of
its names, as long as no setting is given under two. A setting under two names makes the load fail, even
when each source uses one. -/
theorem load_overrides {around : Surroundings} {sources : List Source} {given : List (List Entry)}
    (yields : sources.map (fun source => (source.entries around).result) = given.map .ok)
    (typed : WellTyped given) :
    ((∃ options, (load around sources).result = .ok options) ↔
        Restorable given ∧ ¬ Field.ignoreMissing.Mixed given ∧ ¬ Field.className.Mixed given) ∧
      (∀ options, (load around sources).result = .ok options →
        (given.filterMap Field.className.given?).getLast? = options.className.map .string ∧
          (given.filterMap Field.ignoreMissing.given?).getLast?.getD (.boolean false) =
            .boolean options.ignoreMissing) ∧
      (Restorable given → ∀ e, (load around sources).result = .error e →
        ∃ f : Field, f.Mixed given ∧ e = .undecodable ⟨[], .duplicateField f⟩) := by
  have decoded : (load around sources).result =
      (decode .merged (Entry.own given.flatten)).mapError .undecodable := load_of_yields yields
  have loaded : ∀ options, (load around sources).result = .ok options ↔
      decode .merged (Entry.own given.flatten) = .ok options := by
    intro options
    rw [decoded]
    cases decode .merged (Entry.own given.flatten) with
    | error e => exact iff_of_false nofun nofun
    | ok found => exact ⟨by rintro ⟨⟩; rfl, by rintro ⟨⟩; rfl⟩
  refine ⟨?_, ?_, ?_⟩
  · simp only [loaded]
    exact typed.exists_decode_iff
  · intro options done
    exact typed.settings_of_decode ((loaded options).1 done)
  · intro restorable e fails
    rw [decoded] at fails
    cases outcome : decode .merged (Entry.own given.flatten) with
    | ok options =>
      rw [outcome] at fails
      cases fails
    | error cause =>
      rw [outcome] at fails
      cases fails
      obtain ⟨f, mixed, rfl⟩ := typed.mixed_of_error restorable outcome
      exact ⟨f, mixed, rfl⟩

theorem load_overrides_settings :
    let base : List Entry :=
      [⟨[], .table [("className", .string "var"), ("severity", .string "silent"),
        ("data", .table [("since", .string "1948")])]⟩]
    let middle : List Entry := [⟨["ignore_missing_variables"], .boolean true⟩]
    let last : List Entry := [⟨["className"], .string "term"⟩]
    let given := [base, middle, last]
    let sources : List Source := given.map fun entries => .custom (.ok entries)
    let around : Surroundings := ⟨⟨[]⟩, []⟩
    WellTyped given ∧ Restorable given ∧
      ∃ options, (load around sources).result = .ok options ∧ options.className = some "term" ∧
        options.ignoreMissing = true := by
  intro base middle last given sources around
  have merged : Entry.own given.flatten =
      [("className", .string "term"), ("severity", .string "silent"),
        ("data", .table [("since", .string "1948")]), ("ignore_missing_variables", .boolean true)] := rfl
  have classNames : Field.className.offers given =
      [("className", .string "var"), ("className", .string "term")] := rfl
  have flags : Field.ignoreMissing.offers given = [("ignore_missing_variables", .boolean true)] := rfl
  have typed : WellTyped given := by
    constructor
    · intro value found
      rw [merged] at found
      cases found
      exact ⟨_, rfl⟩
    · intro value found
      rw [merged] at found
      cases found
      exact ⟨.silent, rfl⟩
    · unfold Field.Only
      rw [classNames]
      simp
    · unfold Field.Only
      rw [flags]
      simp
  have restorable : Restorable given := by
    intro t found
    rw [merged] at found
    cases found
    exact ⟨_, rfl⟩
  have one_name : ¬ Field.ignoreMissing.Mixed given ∧ ¬ Field.className.Mixed given := by
    unfold Field.Mixed
    rw [classNames, flags]
    simp
  obtain ⟨succeeds, settings, _⟩ := @load_overrides around sources given rfl typed
  obtain ⟨options, loaded⟩ := succeeds.2 ⟨restorable, one_name⟩
  obtain ⟨className, ignoreMissing⟩ := settings options loaded
  refine ⟨typed, restorable, options, loaded, ?_, ?_⟩
  · have last : (given.filterMap Field.className.given?).getLast? = some (.string "term") := rfl
    rw [last] at className
    obtain ⟨text, same, shown⟩ := Option.map_eq_some_iff.1 className.symm
    cases shown
    exact same
  · have last : (given.filterMap Field.ignoreMissing.given?).getLast?.getD (.boolean false) =
        .boolean true := rfl
    rw [last] at ignoreMissing
    exact (Value.boolean.inj ignoreMissing).symm

/-- Two sources give the class name as texts, each under one name. Neither is taken. -/
theorem load_refuses_second_name :
    let given : List (List Entry) :=
      [[⟨["class_name"], .string "a"⟩], [⟨["className"], .string "b"⟩]]
    let sources : List Source := given.map fun entries => .custom (.ok entries)
    let around : Surroundings := ⟨⟨[]⟩, []⟩
    sources.map (fun source => (source.entries around).result) = given.map .ok ∧
      WellTyped given ∧ Restorable given ∧
      (∀ entries ∈ given, (Field.className.named (Entry.own entries)).length = 1 ∧
        Field.ignoreMissing.named (Entry.own entries) = []) ∧
      (given.filterMap Field.className.given?).getLast? = some (.string "b") ∧
      (load around sources).result = .error (.undecodable ⟨[], .duplicateField .className⟩) := by
  intro given sources around
  have merged : Entry.own given.flatten = [("class_name", .string "a"), ("className", .string "b")] :=
    rfl
  have classNames : Field.className.offers given =
      [("class_name", .string "a"), ("className", .string "b")] := rfl
  have typed : WellTyped given := by
    constructor
    · intro value found
      rw [merged] at found
      cases found
    · intro value found
      rw [merged] at found
      cases found
    · unfold Field.Only
      rw [classNames]
      simp
    · exact fun entry offered => absurd offered List.not_mem_nil
  have restorable : Restorable given := by
    intro t found
    rw [merged] at found
    cases found
  refine ⟨rfl, typed, restorable, ?_, rfl, rfl⟩
  intro entries member
  rcases List.mem_pair.1 member with rfl | rfl
  · exact ⟨rfl, rfl⟩
  · exact ⟨rfl, rfl⟩

end Options

end InlineVariables
