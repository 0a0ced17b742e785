import InlineVariables.Proofs.Options.EnvironmentNames
import InlineVariables.Proofs.Options.Override

/-!
One more setting over a table that is decoded already. When the field has no other name in the table, a
value that fits replaces the part and nothing else (`Options.decode_insert`), and one that does not is the
failure (`Options.decode_insert_error`). So a class name in an environment variable is taken as it is,
unless its text is a truth value, which no class name can be (`Options.load_environment_className`).
-/

namespace InlineVariables

open Toml (Value Table Provenance)

namespace Entry

theorem mem_keys_mergeAll {t : Table} {entries : List Entry} {key : String} :
    key ∈ Assoc.keys (mergeAll t entries) ↔ key ∈ Assoc.keys t ∨ key ∈ Assoc.keys (own entries) := by
  unfold own
  simp only [mergeAll_eq_merge, Toml.Table.mem_keys_merge]
  simp [Assoc.keys]

theorem not_mem_keys_own_flatten {given : List (List Entry)} {key : String}
    (absent : ∀ entries ∈ given, key ∉ Assoc.keys (own entries)) :
    key ∉ Assoc.keys (own given.flatten) := by
  induction given with
  | nil => exact List.not_mem_nil
  | cons entries rest ih =>
    obtain ⟨here, there⟩ := List.forall_mem_cons.1 absent
    rw [List.flatten_cons, own, mergeAll_append, mem_keys_mergeAll]
    rintro (first | later)
    · exact here first
    · exact ih there later

theorem mergeAll_setting (t : Table) (name : String) {value : Value} (plain : value.table? = none) :
    mergeAll t [⟨[name], value⟩] = Assoc.insert t name value := by
  show Assoc.insert t name (value.over (Assoc.get? t name)) = _
  rw [Toml.Value.over_of_not_table plain]

end Entry

namespace Field

variable {f g : Field} {t : Table} {name : String}

theorem named_insert_other (own : ofName? name = some f) (different : g ≠ f) (value : Value) :
    g.named (Assoc.insert t name value) = g.named t := by
  have not_mine : ofName? name ≠ some g := by
    rw [own]
    exact fun same => different (Option.some.inj same).symm
  induction t with
  | nil => rw [Assoc.insert, named_cons, if_neg not_mine]
  | cons entry rest ih =>
    obtain ⟨k, v⟩ := entry
    rw [Assoc.insert]
    split
    · rename_i same
      rw [named_cons, named_cons, same, if_neg not_mine, if_neg not_mine]
    · rw [named_cons, named_cons, ih]

theorem named_insert_self (unique : (Assoc.keys t).Nodup) (own : ofName? name = some f)
    (alone : ∀ entry ∈ f.named t, entry.1 = name) (value : Value) :
    f.named (Assoc.insert t name value) = [(name, value)] := by
  have unique' := Assoc.nodup_insert unique name value
  refine named_eq_singleton unique' own (Assoc.get?_insert_self t name value) ?_
  rintro ⟨k, v⟩ member
  obtain ⟨found, owned⟩ := (mem_named_of_unique unique').1 member
  by_cases same : name = k
  · exact same.symm
  · rw [Assoc.get?_insert_other t value same] at found
    exact alone _ ((mem_named_of_unique unique).2 ⟨found, owned⟩)

end Field

namespace Options

variable {f : Field} {t : Table} {name : String} {value : Value} {options : Options}

theorem Decoded.fits_of_mem {origin : Provenance} {before after : Option f.Part}
    {entries : List (String × Value)} (decoded : Decoded origin f before entries after)
    {entry : String × Value} (member : entry ∈ entries) :
    ∃ part, f.decode origin entry.2 = .ok part := by
  cases decoded with
  | kept => cases member
  | @taken key value part fits =>
    obtain rfl := List.mem_singleton.1 member
    exact ⟨part, fits⟩

section

variable (unique : (Assoc.keys t).Nodup) (own : Field.ofName? name = some f)
  (alone : ∀ entry ∈ f.named t, entry.1 = name)

include unique own alone

/-- A value that fits replaces the part of its field and leaves the others. -/
theorem decode_insert {parts : Parts} (added : Parts.addAll .merged {} t = .ok parts) {part : f.Part}
    (fits : f.decode .merged value = .ok part) :
    decode .merged (Assoc.insert t name value) = .ok (parts.put f part).toOptions := by
  have decoded := Parts.addAll_ok_iff.1 added
  refine decode_ok_iff.2 ⟨parts.put f part, Parts.addAll_ok_iff.2 fun g => ?_, rfl⟩
  by_cases same : g = f
  · subst same
    rw [Field.named_insert_self unique own alone, Parts.get_put_self]
    exact .taken fits
  · rw [Field.named_insert_other own same, Parts.get_put_other parts part same]
    exact decoded g

/-- A value that does not fit is the only failure. -/
theorem decode_insert_error {parts : Parts} (added : Parts.addAll .merged {} t = .ok parts)
    {cause : DecodeError} (unfit : f.decode .merged value = .error cause) :
    decode .merged (Assoc.insert t name value) = .error ⟨name :: cause.path, cause.cause⟩ := by
  have decoded := Parts.addAll_ok_iff.1 added
  have single := Field.named_insert_self unique own alone value
  cases outcome : decode .merged (Assoc.insert t name value) with
  | ok options =>
    obtain ⟨parts', added', _⟩ := decode_ok_iff.1 outcome
    have fits := Parts.addAll_ok_iff.1 added' f
    rw [single, Decoded.cons_iff, unfit] at fits
    obtain ⟨_, _, _, fit, _⟩ := fits
    cases fit
  | error e =>
    obtain ⟨before, key, value', after, parts', shape, reached, failed⟩ :=
      Parts.addAll_error (decode_error_iff.1 outcome)
    have unique' := Assoc.nodup_insert unique name value
    have here : (key, value') ∈ Assoc.insert t name value := by
      rw [shape]
      simp
    obtain ⟨g, owned, ⟨twice, _⟩ | ⟨cause', unfit', rfl⟩⟩ := Parts.add_error failed
    · rw [shape] at unique'
      obtain ⟨a, first, b, second, different⟩ :=
        WellTyped.names_of_twice unique' owned reached twice
      rw [← shape] at first second
      by_cases same : g = f
      · subst same
        rw [single, List.mem_singleton] at first second
        exact absurd (congrArg Prod.fst (first.trans second.symm)) different
      · rw [Field.named_insert_other own same] at first second
        exact absurd (congrArg Prod.fst ((decoded g).same_entry first second)) different
    · have member : (key, value') ∈ g.named (Assoc.insert t name value) :=
        Field.mem_named.2 ⟨here, owned⟩
      by_cases same : g = f
      · subst same
        rw [single, List.mem_singleton] at member
        cases member
        cases unfit.symm.trans unfit'
        rfl
      · rw [Field.named_insert_other own same] at member
        obtain ⟨part, fits⟩ := (decoded g).fits_of_mem member
        cases unfit'.symm.trans fits

end

end Options

namespace Environment

variable {env : Environment}

/-- The variable for the class name. -/
def classNameVariable (env : Environment) : String :=
  env.lead ++ env.separator ++ "CLASS_NAME"

theorem entries_classNameVariable (word : ¬ env.separator.toList <:+: "CLASS_NAME".toList)
    {settings : List (String × String)} {text : String}
    (selected : settings.filter (env.Selects ·.1) = [(env.classNameVariable, text)]) :
    env.entries settings = [⟨["class_name"], coerce text⟩] := by
  have spelled : env.classNameVariable =
      env.lead ++ env.separator ++ String.ofList "CLASS_NAME".toList := by
    rw [String.ofList_toList]
    rfl
  have tail : env.tail? env.classNameVariable = some "CLASS_NAME".toList :=
    tail?_eq_some_iff.2 ⟨by simp, spelled⟩
  have cut := (Text.cutFromLeft_iff env.separator_toList_ne).1 (.whole word)
  obtain ⟨first, others⟩ := List.cons.inj cut
  have lower : Text.lowercase (String.ofList "CLASS_NAME".toList) = "class_name" := rfl
  have entry : env.entry? env.classNameVariable text = some ⟨["class_name"], coerce text⟩ := by
    unfold entry?
    rw [tail, Option.map_some]
    dsimp only
    rw [← first, ← others, entryOf, lower]
    rfl
  rw [← entries_filter, selected]
  unfold entries
  simp [entry]

theorem coerce_eq {text : String} {value : Value} (coerced : Coerces text value) :
    coerce text = value := by
  cases coerced with
  | flag b spelled =>
    cases b with
    | true => exact if_pos spelled
    | false =>
      have other : Text.sameUpToAsciiCase text "true" = false := by
        unfold Text.sameUpToAsciiCase at spelled ⊢
        rw [beq_iff_eq.1 spelled]
        decide
      rw [coerce, other, if_neg Bool.false_ne_true]
      exact if_pos spelled
  | text other =>
    have not_true : Text.sameUpToAsciiCase text "true" = false := other true
    have not_false : Text.sameUpToAsciiCase text "false" = false := other false
    rw [coerce, not_true, not_false]
    rfl

end Environment

namespace Options

variable {around : Surroundings} {env : Environment} {sources : List Source} {options : Options}
  {text : String}

/-- Whether a text spells a truth value, in any case of letters. -/
def spells (text : String) (b : Bool) : Bool :=
  Text.sameUpToAsciiCase text (if b then "true" else "false")

theorem exists_gathered (loaded : (load around sources).result = .ok options)
    (one_name : ∀ source ∈ sources, ∀ entries, (source.entries around).result = .ok entries →
      Assoc.contains (Entry.own entries) "className" = false) :
    ∃ t parts, (gather around [] sources).result = .ok t ∧ (Assoc.keys t).Nodup ∧
      (∀ entry ∈ Field.className.named t, entry.1 = "class_name") ∧
      Parts.addAll .merged {} t = .ok parts ∧ options = parts.toOptions := by
  obtain ⟨t, built, decoded⟩ := load_ok_iff.1 loaded
  obtain ⟨parts, added, rfl⟩ := decode_ok_iff.1 decoded
  refine ⟨t, parts, built, gather_unique built, ?_, added, rfl⟩
  obtain ⟨given, yields, rfl⟩ := gather_ok_iff.1 built
  have absent : "className" ∉ Assoc.keys (Entry.own given.flatten) := by
    refine Entry.not_mem_keys_own_flatten fun entries member inside => ?_
    have listed : Except.ok entries ∈ given.map (Except.ok (ε := LoadError)) :=
      List.mem_map_of_mem member
    rw [← yields] at listed
    obtain ⟨source, registered, gives⟩ := List.mem_map.1 listed
    have missing := one_name source registered entries gives
    rw [Assoc.contains_iff.2 inside] at missing
    cases missing
  rintro ⟨name, value⟩ member
  obtain ⟨there, owned⟩ := Field.mem_named.1 member
  rw [Field.ofName?_eq_some_iff, Field.names, List.mem_pair] at owned
  rcases owned with rfl | rfl
  · rfl
  · exact absurd (List.mem_map_of_mem (f := (·.1)) there) absent

theorem gather_className {t : Table} (built : (gather around [] sources).result = .ok t)
    (word : ¬ env.separator.toList <:+: "CLASS_NAME".toList)
    (selected : around.settings.filter (env.Selects ·.1) = [(env.classNameVariable, text)])
    {value : Value} (coerced : Environment.Coerces text value) :
    (gather around [] (sources ++ [.environment env])).result =
      .ok (Assoc.insert t "class_name" value) := by
  have plain : value.table? = none := by
    cases coerced <;> rfl
  have entries := env.entries_classNameVariable word selected
  rw [Environment.coerce_eq coerced] at entries
  rw [gather_append, Run.andThen_of_ok _ built]
  show Except.ok (Entry.mergeAll t (env.entries around.settings)) = _
  rw [entries, Entry.mergeAll_setting t "class_name" plain]

/-- The class name is the text of the variable, and the other options are those of the earlier sources.
But a text that is a truth value in any case of letters becomes one, and is refused. -/
theorem load_environment_className (loaded : (load around sources).result = .ok options)
    (one_name : ∀ source ∈ sources, ∀ entries, (source.entries around).result = .ok entries →
      Assoc.contains (Entry.own entries) "className" = false)
    (word : ¬ env.separator.toList <:+: "CLASS_NAME".toList)
    (selected : around.settings.filter (env.Selects ·.1) = [(env.classNameVariable, text)]) :
    ((∀ b, spells text b = false) →
      (load around (sources ++ [.environment env])).result =
        .ok { options with className := some text }) ∧
    ∀ b, spells text b = true →
      (load around (sources ++ [.environment env])).result =
        .error (.undecodable ⟨["class_name"], .invalidType
          ("boolean \x60" ++ (if b then "true" else "false") ++ "\x60") "a string"⟩) := by
  obtain ⟨t, parts, built, unique, alone, added, rfl⟩ := exists_gathered loaded one_name
  have own : Field.ofName? "class_name" = some .className := rfl
  constructor
  · intro other
    have gathered := gather_className built word selected (.text other)
    have fits : Field.className.decode .merged (.string text) = .ok text := rfl
    have decoded := decode_insert unique own alone added fits
    exact load_ok_iff.2 ⟨_, gathered, decoded⟩
  · intro b spelled
    have gathered := gather_className built word selected (.flag b spelled)
    have unfit : Field.className.decode .merged (.boolean b) =
        .error ⟨[], .invalidType ("boolean \x60" ++ (if b then "true" else "false") ++ "\x60")
          "a string"⟩ := rfl
    have refused := decode_insert_error unique own alone added unfit
    show ((gather around [] (sources ++ [.environment env])).andThen _).result = _
    rw [Run.andThen_of_ok _ gathered, refused]
    rfl

private theorem underscores_ne : "__" ≠ "" := by
  decide

private def shellVariables : Environment :=
  ⟨"MDVARS", "__", underscores_ne⟩

private def strictVarEntries : List Entry :=
  [⟨["class_name"], .string "var"⟩, ⟨["severity"], .string "error"⟩]

private def strictVar : List Source :=
  [.custom (.ok strictVarEntries)]

private def settingClassName (text : String) : Surroundings :=
  ⟨⟨[]⟩, [("PATH", "/bin"), ("MDVARS__CLASS_NAME", text), ("MDVARS_CLASS_NAME", "x")]⟩

private theorem load_strictVar (around : Surroundings) :
    (load around strictVar).result = .ok { severity := .error, className := some "var" } := by
  have merged : Entry.mergeAll [] strictVarEntries =
      [("class_name", .string "var"), ("severity", .string "error")] := rfl
  refine load_single_iff.2 ⟨strictVarEntries, rfl, ?_⟩
  rw [merged]
  rfl

theorem load_environment_className_term :
    (load (settingClassName "True term") strictVar).result =
        .ok { severity := .error, className := some "var" } ∧
      ¬ shellVariables.separator.toList <:+: "CLASS_NAME".toList ∧
      (settingClassName "True term").settings.filter (shellVariables.Selects ·.1) =
        [(shellVariables.classNameVariable, "True term")] ∧
      (∀ b, spells "True term" b = false) ∧
      (load (settingClassName "True term") (strictVar ++ [.environment shellVariables])).result =
        .ok { severity := .error, className := some "True term" } := by
  have loaded := load_strictVar (settingClassName "True term")
  have one_name : ∀ source ∈ strictVar, ∀ entries,
      (source.entries (settingClassName "True term")).result = .ok entries →
        Assoc.contains (Entry.own entries) "className" = false := by
    intro source member entries gives
    obtain rfl := List.mem_singleton.1 member
    cases gives
    rfl
  have word : ¬ shellVariables.separator.toList <:+: "CLASS_NAME".toList := by
    decide
  have selected : (settingClassName "True term").settings.filter (shellVariables.Selects ·.1) =
      [(shellVariables.classNameVariable, "True term")] := by
    decide
  have other : ∀ b, spells "True term" b = false := by
    decide
  obtain ⟨taken, _⟩ := load_environment_className loaded one_name word selected
  exact ⟨loaded, word, selected, other, taken other⟩

/-- A class name that every other source may give is refused in the environment. -/
theorem load_refuses_true_className :
    (load (settingClassName "TRUE") strictVar).result =
        .ok { severity := .error, className := some "var" } ∧
      (∀ source ∈ strictVar, ∀ entries,
        (source.entries (settingClassName "TRUE")).result = .ok entries →
          Assoc.contains (Entry.own entries) "className" = false) ∧
      ¬ shellVariables.separator.toList <:+: "CLASS_NAME".toList ∧
      (settingClassName "TRUE").settings.filter (shellVariables.Selects ·.1) =
        [(shellVariables.classNameVariable, "TRUE")] ∧
      (load (settingClassName "TRUE") (strictVar ++ [.environment shellVariables])).result =
        .error (.undecodable ⟨["class_name"], .invalidType "boolean \x60true\x60" "a string"⟩) := by
  refine ⟨load_strictVar _, ?_, by decide, by decide, ?_⟩
  · intro source member entries gives
    obtain rfl := List.mem_singleton.1 member
    cases gives
    rfl
  · have yields : (strictVar ++ [Source.environment shellVariables]).map
        (fun source => (source.entries (settingClassName "TRUE")).result) =
          [strictVarEntries, [⟨["class_name"], .boolean true⟩]].map .ok := rfl
    have merged : Entry.mergeAll [] [strictVarEntries, [⟨["class_name"], .boolean true⟩]].flatten =
        [("class_name", .boolean true), ("severity", .string "error")] := rfl
    rw [load_of_yields yields, merged]
    rfl

end Options

end InlineVariables
