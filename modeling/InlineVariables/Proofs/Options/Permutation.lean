import InlineVariables.Proofs.Options.Decoding
import InlineVariables.Proofs.Options.Loading
import InlineVariables.Proofs.Toml.EveryKey
import InlineVariables.Proofs.Toml.Reordering

/-!
Environments in another order. Tables that differ in the order of their keys decode alike
(`Options.decode_reordered`), and variables whose paths do not lead to one another build such tables in
any order (`Options.gather_permuted`). Main statement: `Options.load_permuted_environment`.
-/

namespace InlineVariables

open Toml (Value Table datetimeMarker)

/-- The same options but for the order of keys in the data. -/
structure Options.Reordered (a b : Options) : Prop where
  data : Table.Reordered a.data b.data
  severity : a.severity = b.severity
  ignoreMissing : a.ignoreMissing = b.ignoreMissing
  className : a.className = b.className

namespace Options

/-! ### Values of settings -/

theorem checkPayload_reordered {x y : Value} (same : x.Reordered y) :
    checkPayload x = checkPayload y := by
  cases same with
  | refl => rfl
  | @table a b keys values =>
    have lengths := Table.Reordered.length_eq (.table keys values)
    match a, b, lengths with
    | [], [], _ => rfl
    | _ :: _, _ :: _, _ => rfl

theorem decodeSeverity_reordered {x y : Value} (same : x.Reordered y) :
    decodeSeverity x = decodeSeverity y := by
  cases same with
  | refl => rfl
  | @table a b keys values =>
    have lengths := Table.Reordered.length_eq (.table keys values)
    match a, b, lengths with
    | [], [], _ => rfl
    | [(name, payload)], [(name', payload')], _ =>
      obtain rfl : name = name' := by simpa [Assoc.keys] using keys
      have inner : payload.Reordered payload' :=
        values name payload payload' (if_pos rfl) (if_pos rfl)
      show (severityNamed name >>= fun severity => checkPayload payload >>= fun _ => pure severity) =
        (severityNamed name >>= fun severity => checkPayload payload' >>= fun _ => pure severity)
      rw [checkPayload_reordered inner]
    | _ :: _ :: _, _ :: _ :: _, _ => rfl

theorem decodeFlag_reordered {x y : Value} (same : x.Reordered y) :
    decodeFlag .merged x = decodeFlag .merged y := by
  cases same with
  | refl => rfl
  | table => rfl

theorem decodeText_reordered {x y : Value} (same : x.Reordered y) :
    decodeText .merged x = decodeText .merged y := by
  cases same with
  | refl => rfl
  | table => rfl

end Options

namespace Field

/-- Parts of a field that come of tables in different orders. -/
def SamePart : (f : Field) → Option f.Part → Option f.Part → Prop
  | .data, a, b => Table.Reordered (a.getD []) (b.getD [])
  | .severity, a, b => a = b
  | .ignoreMissing, a, b => a = b
  | .className, a, b => a = b

theorem samePart_refl (f : Field) (part : Option f.Part) : f.SamePart part part := by
  cases f with
  | data => exact .refl _
  | _ => rfl

theorem decode_reordered (f : Field) {x y : Value} (same : x.Reordered y)
    (plain : x.EveryKey (· ≠ datetimeMarker)) (plain' : y.EveryKey (· ≠ datetimeMarker))
    {part : f.Part} (fits : f.decode .merged x = .ok part) :
    ∃ part', f.decode .merged y = .ok part' ∧ f.SamePart (some part) (some part') := by
  cases f with
  | data =>
    cases same with
    | refl => exact ⟨part, fits, .refl _⟩
    | @table a b keys values =>
      have restored := Options.decodeData_table_ok.1 fits
      rw [Table.restore_of_everyKey plain] at restored
      cases restored
      refine ⟨Table.textual b, ?_, ?_⟩
      · exact Options.decodeData_table_ok.2 (Table.restore_of_everyKey plain')
      · exact Value.Reordered.textual (.table keys values)
  | severity => exact ⟨part, (Options.decodeSeverity_reordered same).symm.trans fits, rfl⟩
  | ignoreMissing => exact ⟨part, (Options.decodeFlag_reordered same).symm.trans fits, rfl⟩
  | className => exact ⟨part, (Options.decodeText_reordered same).symm.trans fits, rfl⟩

variable {f : Field} {t u : Table}

theorem named_reordered_nil (same : t.Reordered u) (none_named : f.named t = []) :
    f.named u = [] := by
  apply named_eq_nil
  intro name own
  cases found : Assoc.get? t name with
  | none => exact same.get?_none found
  | some value =>
    have member : (name, value) ∈ f.named t := mem_named.2 ⟨Assoc.mem_of_get? found, own⟩
    rw [none_named] at member
    cases member

theorem named_reordered_singleton (same : t.Reordered u) (unique : (Assoc.keys t).Nodup)
    {name : String} {x : Value} (single : f.named t = [(name, x)]) :
    ∃ y, Assoc.get? t name = some x ∧ Assoc.get? u name = some y ∧ x.Reordered y ∧
      f.named u = [(name, y)] := by
  have here : (name, x) ∈ f.named t := by
    rw [single]
    exact List.mem_singleton_self _
  obtain ⟨member, own⟩ := mem_named.1 here
  have found := Assoc.get?_of_mem unique member
  obtain ⟨y, found', values⟩ := same.get?_some found
  refine ⟨y, found, found', values, ?_⟩
  apply named_eq_singleton (same.keys.nodup_iff.1 unique) own found'
  rintro ⟨other, z⟩ there
  obtain ⟨present, owned⟩ := mem_named.1 there
  have listed : other ∈ Assoc.keys t :=
    same.keys.mem_iff.2 (List.mem_map_of_mem (f := (·.1)) present)
  obtain ⟨⟨k, v⟩, back, listed_as⟩ := List.mem_map.1 listed
  obtain rfl : k = other := listed_as
  have twin : (k, v) ∈ f.named t := mem_named.2 ⟨back, owned⟩
  rw [single, List.mem_singleton] at twin
  exact (Prod.mk.inj twin).1

end Field

namespace Options

/-! ### Decoding -/

variable {t u : Table}

theorem Decoded.reordered {f : Field} (same : t.Reordered u) (unique : (Assoc.keys t).Nodup)
    (plain : Table.EveryKey (· ≠ datetimeMarker) t) (plain' : Table.EveryKey (· ≠ datetimeMarker) u)
    {part : Option f.Part} (decoded : Decoded .merged f none (f.named t) part) :
    ∃ part', Decoded .merged f none (f.named u) part' ∧ f.SamePart part part' := by
  cases shape : f.named t with
  | nil =>
    rw [shape, Decoded.nil_iff] at decoded
    subst decoded
    rw [Field.named_reordered_nil same shape]
    exact ⟨none, .kept none, f.samePart_refl none⟩
  | cons entry rest =>
    obtain ⟨name, x⟩ := entry
    rw [shape, Decoded.cons_iff] at decoded
    obtain ⟨_, rfl, part, fits, rfl⟩ := decoded
    obtain ⟨y, found, found', values, single⟩ :=
      Field.named_reordered_singleton same unique shape
    obtain ⟨part', fits', agree⟩ :=
      f.decode_reordered values (plain.get? found) (plain'.get? found') fits
    rw [single]
    exact ⟨some part', .taken fits', agree⟩

theorem decode_reordered (same : t.Reordered u) (unique : (Assoc.keys t).Nodup)
    (plain : Table.EveryKey (· ≠ datetimeMarker) t) (plain' : Table.EveryKey (· ≠ datetimeMarker) u)
    {options : Options} (done : decode .merged t = .ok options) :
    ∃ options', decode .merged u = .ok options' ∧ options.Reordered options' := by
  obtain ⟨parts, added, rfl⟩ := decode_ok_iff.1 done
  have each : ∀ f : Field, ∃ part', Decoded .merged f none (f.named u) part' ∧
      f.SamePart (parts.get f) part' := fun f =>
    Decoded.reordered same unique plain plain' (Parts.addAll_ok_iff.1 added f)
  obtain ⟨data, dataDecoded, sameData⟩ := each .data
  obtain ⟨severity, severityDecoded, sameSeverity⟩ := each .severity
  obtain ⟨ignoreMissing, ignoreMissingDecoded, sameIgnoreMissing⟩ := each .ignoreMissing
  obtain ⟨className, classNameDecoded, sameClassName⟩ := each .className
  have added' : Parts.addAll .merged {} u = .ok ⟨data, severity, ignoreMissing, className⟩ := by
    apply Parts.addAll_ok_iff.2
    intro f
    cases f <;> assumption
  refine ⟨_, decode_ok_iff.2 ⟨_, added', rfl⟩, sameData, ?_, ?_, sameClassName⟩
  · exact congrArg (Option.getD · Severity.warn) sameSeverity
  · exact congrArg (Option.getD · false) sameIgnoreMissing

end Options

/-! ### Sources -/

namespace Source

variable {files : FileTree} {settings settings' : List (String × String)}

/-- The marker of datetimes is no key of the entries that the source yields. -/
def Plain (around : Surroundings) (source : Source) : Prop :=
  ∀ entries, (source.entries around).result = .ok entries →
    ∀ entry ∈ entries, entry.EveryKey (· ≠ datetimeMarker)

/-- The variables that the source selects, if it reads any, have paths that do not lead to one
another. -/
def Independent (settings : List (String × String)) : Source → Prop
  | .environment env => (env.entries settings).Pairwise Entry.Apart
  | _ => True

theorem entries_permuted (permuted : settings.Perm settings') {source : Source}
    {entries : List Entry} (yields : (source.entries ⟨files, settings⟩).result = .ok entries) :
    ∃ entries', (source.entries ⟨files, settings'⟩).result = .ok entries' ∧
      entries.Perm entries' ∧ (source.Independent settings → ∀ {t u : Table}, t.Reordered u →
        (Entry.mergeAll t entries).Reordered (Entry.mergeAll u entries')) := by
  cases source with
  | file path required =>
    exact ⟨entries, yields, .refl _, fun _ _ _ same => Entry.mergeAll_congr same entries⟩
  | environment env =>
    cases yields
    have selected : (env.entries settings).Perm (env.entries settings') := permuted.filterMap _
    exact ⟨_, rfl, selected, fun apart _ _ same => Entry.mergeAll_reordered selected apart same⟩
  | custom given =>
    exact ⟨entries, yields, .refl _, fun _ _ _ same => Entry.mergeAll_congr same entries⟩

theorem Plain.permuted {source : Source} (plain : source.Plain ⟨files, settings⟩)
    (permuted : settings.Perm settings') : source.Plain ⟨files, settings'⟩ := by
  intro entries' yields' entry member
  obtain ⟨entries, yields, same, _⟩ := entries_permuted permuted.symm yields'
  exact plain entries yields entry (same.mem_iff.1 member)

theorem plain_of_yields {around : Surroundings} {sources : List Source} {given : List (List Entry)}
    (yields : sources.map (fun source => (source.entries around).result) = given.map .ok)
    (every : ∀ entry ∈ given.flatten, entry.EveryKey (· ≠ datetimeMarker)) :
    ∀ source ∈ sources, source.Plain around := by
  intro source member entries found entry inside
  have listed := List.mem_map_of_mem (f := fun source => (source.entries around).result) member
  rw [yields, found] at listed
  obtain ⟨_, there, same⟩ := List.mem_map.1 listed
  cases same
  exact every entry (List.mem_flatten.2 ⟨_, there, inside⟩)

theorem Independent.permuted {source : Source} (independent : source.Independent settings)
    (permuted : settings.Perm settings') : source.Independent settings' := by
  cases source with
  | environment env =>
    exact ((permuted.filterMap _).pairwise_iff Entry.Apart.symm).1 independent
  | _ => trivial

end Source

namespace Options

theorem gather_plain {around : Surroundings} {sources : List Source}
    (plain : ∀ source ∈ sources, source.Plain around) {t u : Table}
    (before : Table.EveryKey (· ≠ datetimeMarker) t)
    (built : (gather around t sources).result = .ok u) :
    Table.EveryKey (· ≠ datetimeMarker) u := by
  induction sources generalizing t with
  | nil =>
    cases built
    exact before
  | cons source rest ih =>
    obtain ⟨here, there⟩ := List.forall_mem_cons.1 plain
    rw [gather_cons] at built
    obtain ⟨entries, yields, built⟩ := Run.andThen_result_ok_iff.1 built
    exact ih there (Entry.mergeAll_everyKey before (here entries yields)) built

variable {files : FileTree} {settings settings' : List (String × String)}

theorem gather_permuted (permuted : settings.Perm settings') {sources : List Source}
    (independent : ∀ source ∈ sources, source.Independent settings) {t t' u : Table}
    (same : t.Reordered t') (built : (gather ⟨files, settings⟩ t sources).result = .ok u) :
    ∃ u', (gather ⟨files, settings'⟩ t' sources).result = .ok u' ∧ u.Reordered u' := by
  -- The tables reached so far differ in order only, and each source keeps that.
  induction sources generalizing t t' with
  | nil =>
    cases built
    exact ⟨t', rfl, same⟩
  | cons source rest ih =>
    obtain ⟨here, there⟩ := List.forall_mem_cons.1 independent
    rw [gather_cons] at built
    obtain ⟨entries, yields, built⟩ := Run.andThen_result_ok_iff.1 built
    obtain ⟨entries', yields', _, merged⟩ := Source.entries_permuted permuted yields
    obtain ⟨u', built', reached⟩ := ih there (merged here same) built
    refine ⟨u', ?_, reached⟩
    rw [gather_cons, Run.andThen_of_ok _ yields']
    exact built'

theorem load_permuted (permuted : settings.Perm settings') {sources : List Source}
    (independent : ∀ source ∈ sources, source.Independent settings)
    (plain : ∀ source ∈ sources, source.Plain ⟨files, settings⟩) {options : Options}
    (loaded : (load ⟨files, settings⟩ sources).result = .ok options) :
    ∃ options', (load ⟨files, settings'⟩ sources).result = .ok options' ∧
      options.Reordered options' := by
  obtain ⟨t, built, done⟩ := load_ok_iff.1 loaded
  obtain ⟨u, built', same⟩ := gather_permuted permuted independent (.refl []) built
  have plain' : ∀ source ∈ sources, source.Plain ⟨files, settings'⟩ := fun source member =>
    (plain source member).permuted permuted
  obtain ⟨options', done', reordered⟩ := decode_reordered same (gather_unique built)
    (gather_plain plain .nil built) (gather_plain plain' .nil built') done
  exact ⟨options', load_ok_iff.2 ⟨u, built', done'⟩, reordered⟩

/-- The order of variables whose paths do not lead to one another is not seen in what is loaded, but
for the order of keys in the data. -/
theorem load_permuted_environment (permuted : settings.Perm settings') (sources : List Source)
    (independent : ∀ source ∈ sources, source.Independent settings)
    (plain : ∀ source ∈ sources, source.Plain ⟨files, settings⟩) :
    ((∃ options, (load ⟨files, settings⟩ sources).result = .ok options) ↔
      ∃ options, (load ⟨files, settings'⟩ sources).result = .ok options) ∧
    ∀ a b, (load ⟨files, settings⟩ sources).result = .ok a →
      (load ⟨files, settings'⟩ sources).result = .ok b → a.Reordered b := by
  have independent' : ∀ source ∈ sources, source.Independent settings' := fun source member =>
    (independent source member).permuted permuted
  have plain' : ∀ source ∈ sources, source.Plain ⟨files, settings'⟩ := fun source member =>
    (plain source member).permuted permuted
  refine ⟨⟨?_, ?_⟩, ?_⟩
  · rintro ⟨options, loaded⟩
    obtain ⟨options', loaded', _⟩ := load_permuted permuted independent plain loaded
    exact ⟨options', loaded'⟩
  · rintro ⟨options, loaded⟩
    obtain ⟨options', loaded', _⟩ := load_permuted permuted.symm independent' plain' loaded
    exact ⟨options', loaded'⟩
  · intro a b first second
    obtain ⟨options', loaded', same⟩ := load_permuted permuted independent plain first
    cases second.symm.trans loaded'
    exact same

private def whoSettings : List (String × String) :=
  [("MDVARS__DATA__who__label", "World Health Organization"), ("PATH", "/bin"),
    ("MDVARS__SEVERITY", "error"), ("MDVARS__DATA__who__abbr", "W.H.O.")]

private def whoSelected : List Entry :=
  [⟨["data", "who", "label"], .string "World Health Organization"⟩,
    ⟨["severity"], .string "error"⟩, ⟨["data", "who", "abbr"], .string "W.H.O."⟩]

private def whoEarly : List Entry :=
  [⟨["data"], .table [("who", .string "WHO"), ("since", .string "1948")]⟩]

private def whoLate : List Entry :=
  [⟨["data", "who", "url"], .string "https://www.who.int"⟩]

private def whoEnvironment : Environment :=
  ⟨"MDVARS", "__", by decide⟩

private def whoSources : List Source :=
  [.custom (.ok whoEarly), .environment whoEnvironment, .custom (.ok whoLate)]

private def whoData (fields : Table) : Table :=
  [("who", .table (fields ++ [("url", .string "https://www.who.int")])), ("since", .string "1948")]

/-- Two variables make a table in the place of a text, and a later source adds to it. -/
theorem load_permuted_environment_who :
    let files : FileTree := ⟨[]⟩
    let fields : Table := [("label", .string "World Health Organization"), ("abbr", .string "W.H.O.")]
    whoSettings.Perm whoSettings.reverse ∧
      (∀ source ∈ whoSources, source.Independent whoSettings) ∧
      (∀ source ∈ whoSources, source.Plain ⟨files, whoSettings⟩) ∧
      (load ⟨files, whoSettings⟩ whoSources).result =
        .ok { data := whoData fields, severity := .error } ∧
      (load ⟨files, whoSettings.reverse⟩ whoSources).result =
        .ok { data := whoData fields.reverse, severity := .error } ∧
      (whoData fields).Reordered (whoData fields.reverse) := by
  intro files fields
  have permuted : whoSettings.Perm whoSettings.reverse := (List.reverse_perm _).symm
  have independent : ∀ source ∈ whoSources, source.Independent whoSettings := by
    have apart : whoSelected.Pairwise Entry.Apart := by
      simp [whoSelected, Entry.Apart]
    exact List.forall_mem_cons.2 ⟨trivial, List.forall_mem_cons.2 ⟨apart,
      List.forall_mem_singleton.2 trivial⟩⟩
  have yields : whoSources.map (fun source => (source.entries ⟨files, whoSettings⟩).result) =
      [whoEarly, whoSelected, whoLate].map .ok := rfl
  have yields' :
      whoSources.map (fun source => (source.entries ⟨files, whoSettings.reverse⟩).result) =
        [whoEarly, whoSelected.reverse, whoLate].map .ok := rfl
  have plain : ∀ source ∈ whoSources, source.Plain ⟨files, whoSettings⟩ := by
    apply Source.plain_of_yields yields
    simp [whoEarly, whoSelected, whoLate, Entry.EveryKey, Value.EveryKey, Table.EveryKey,
      datetimeMarker]
  have merged : Entry.mergeAll [] [whoEarly, whoSelected, whoLate].flatten =
      [("data", .table (whoData fields)), ("severity", .string "error")] := rfl
  have merged' : Entry.mergeAll [] [whoEarly, whoSelected.reverse, whoLate].flatten =
      [("data", .table (whoData fields.reverse)), ("severity", .string "error")] := rfl
  have first : (load ⟨files, whoSettings⟩ whoSources).result =
      .ok { data := whoData fields, severity := .error } := by
    rw [load_of_yields yields, merged]
    rfl
  have second : (load ⟨files, whoSettings.reverse⟩ whoSources).result =
      .ok { data := whoData fields.reverse, severity := .error } := by
    rw [load_of_yields yields', merged']
    rfl
  have same := (load_permuted_environment permuted whoSources independent plain).2 _ _ first second
  exact ⟨permuted, independent, plain, first, second, same.data⟩

end Options

end InlineVariables
