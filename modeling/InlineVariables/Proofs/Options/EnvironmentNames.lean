import InlineVariables.Proofs.Options.Loading
import InlineVariables.Proofs.Text.Cutting

/-!
Which environment variables count, and for what. Each variable whose name goes on behind the lead and the
separator yields one entry (`Environment.Yields`), and no other variable is ever looked at. Main statement:
`Environment.entries_by_name`.
-/

namespace InlineVariables

open Toml (Value)

namespace Environment

variable {env : Environment}

/-- The name begins with the lead and the separator, and something follows. -/
def Selects (env : Environment) (name : String) : Prop :=
  ∃ tail, tail ≠ "" ∧ name = env.lead ++ env.separator ++ tail

/-- What becomes of the text of a setting: a truth value when it spells one in any case of letters. -/
inductive Coerces (text : String) : Value → Prop
  | flag (b : Bool)
    (spelled : Text.sameUpToAsciiCase text (if b then "true" else "false") = true) :
    Coerces text (.boolean b)
  | text (other : ∀ b : Bool,
      Text.sameUpToAsciiCase text (if b then "true" else "false") = false) : Coerces text (.string text)

/-- The entry of a selected variable. The separator cuts the rest of the name from the left. Below the data
the keys and the text stay as they are, otherwise the path is put in lower case. -/
inductive Yields (env : Environment) (name text : String) : Entry → Prop
  | data {tail first : List Char} {others : List (List Char)}
    (spelled : name = env.lead ++ env.separator ++ String.ofList tail)
    (cut : Text.CutFromLeft env.separator.toList tail (first :: others))
    (below : Text.lowercase (String.ofList first) = "data") :
    Yields env name text ⟨"data" :: others.map String.ofList, .string text⟩
  | setting {tail first : List Char} {others : List (List Char)} {value : Value}
    (spelled : name = env.lead ++ env.separator ++ String.ofList tail)
    (cut : Text.CutFromLeft env.separator.toList tail (first :: others))
    (apart : Text.lowercase (String.ofList first) ≠ "data") (coerced : Coerces text value) :
    Yields env name text
      ⟨(first :: others).map fun piece => Text.lowercase (String.ofList piece), value⟩

theorem separator_toList_ne (env : Environment) : env.separator.toList ≠ [] := fun empty =>
  env.separator_ne (String.toList_inj.1 empty)

theorem tail?_eq_some_iff {name : String} {tail : List Char} :
    env.tail? name = some tail ↔
      tail ≠ [] ∧ name = env.lead ++ env.separator ++ String.ofList tail := by
  have spelled : name = env.lead ++ env.separator ++ String.ofList tail ↔
      name.toList = env.lead.toList ++ env.separator.toList ++ tail := by
    rw [← String.toList_inj]
    simp
  rw [spelled, ← Text.after?_eq_some_iff, tail?]
  cases Text.after? (env.lead.toList ++ env.separator.toList) name.toList with
  | none => simp
  | some rest =>
    cases rest with
    | nil => simp
    | cons c rest =>
      refine ⟨fun same => ⟨?_, same⟩, And.right⟩
      rintro rfl
      cases same

theorem isSome_tail?_iff {name : String} : (env.tail? name).isSome = true ↔ env.Selects name := by
  rw [Option.isSome_iff_exists]
  constructor
  · rintro ⟨tail, found⟩
    obtain ⟨some_char, spelled⟩ := tail?_eq_some_iff.1 found
    exact ⟨String.ofList tail, by simpa using some_char, spelled⟩
  · rintro ⟨tail, some_char, spelled⟩
    refine ⟨tail.toList, tail?_eq_some_iff.2 ⟨by simpa using some_char, ?_⟩⟩
    rw [String.ofList_toList]
    exact spelled

instance (env : Environment) : DecidablePred env.Selects := fun _ =>
  decidable_of_iff _ isSome_tail?_iff

theorem coerces (text : String) : Coerces text (coerce text) := by
  unfold coerce
  split
  · rename_i spelled
    exact .flag true spelled
  · rename_i not_true
    split
    · rename_i spelled
      exact .flag false spelled
    · rename_i not_false
      refine .text fun b => ?_
      cases b with
      | true => exact Bool.eq_false_iff.2 not_true
      | false => exact Bool.eq_false_iff.2 not_false

theorem yields_of_selected {name text : String} {entry : Entry}
    (selected : env.entry? name text = some entry) : env.Yields name text entry := by
  obtain ⟨tail, found, rfl⟩ := Option.map_eq_some_iff.1 selected
  obtain ⟨_, spelled⟩ := tail?_eq_some_iff.1 found
  have cut := Text.piecesOn_cut env.separator_toList_ne tail
  generalize Text.piecesOn env.separator.toList tail = pieces at cut ⊢
  obtain ⟨first, others⟩ := pieces
  dsimp only [entryOf] at cut ⊢
  split
  · rename_i below
    rw [below]
    exact .data spelled cut below
  · rename_i apart
    rw [List.map_map]
    exact .setting spelled cut apart (coerces text)

theorem isSome_entry?_iff {name text : String} :
    (env.entry? name text).isSome = true ↔ env.Selects name := by
  unfold entry?
  rw [Option.isSome_map, isSome_tail?_iff]

theorem entries_forall₂ (env : Environment) (settings : List (String × String)) :
    List.Forall₂ (fun setting entry => env.Yields setting.1 setting.2 entry)
      (settings.filter (env.Selects ·.1)) (env.entries settings) := by
  induction settings with
  | nil => exact .nil
  | cons setting rest ih =>
    obtain ⟨name, text⟩ := setting
    rw [List.filter_cons, entries, List.filterMap_cons]
    by_cases selected : env.Selects name
    · obtain ⟨entry, yields⟩ := Option.isSome_iff_exists.1 (isSome_entry?_iff.2 selected)
      rw [if_pos (decide_eq_true selected)]
      dsimp only
      rw [yields]
      exact .cons (yields_of_selected yields) ih
    · have nothing : env.entry? name text = none := by
        rw [← Option.not_isSome_iff_eq_none, isSome_entry?_iff]
        exact selected
      rw [if_neg (by simpa using selected)]
      dsimp only
      rw [nothing]
      exact ih

theorem entries_filter_of {keep : String → Bool}
    (kept : ∀ name, env.Selects name → keep name = true) (settings : List (String × String)) :
    env.entries (settings.filter (keep ·.1)) = env.entries settings := by
  unfold entries
  rw [List.filterMap_filter]
  refine List.filterMap_congr ?_
  rintro ⟨name, text⟩ _
  dsimp only
  split
  · rfl
  · rename_i dropped
    symm
    rw [← Option.not_isSome_iff_eq_none, isSome_entry?_iff]
    exact fun selected => dropped (kept name selected)

theorem entries_filter (env : Environment) (settings : List (String × String)) :
    env.entries (settings.filter (env.Selects ·.1)) = env.entries settings :=
  entries_filter_of (fun _ => decide_eq_true) settings

end Environment

namespace Options

theorem gather_of_selected {files : FileTree} {settings settings' : List (String × String)}
    {sources : List Source}
    (same : ∀ env, Source.environment env ∈ sources →
      settings.filter (env.Selects ·.1) = settings'.filter (env.Selects ·.1)) (t : Toml.Table) :
    gather ⟨files, settings⟩ t sources = gather ⟨files, settings'⟩ t sources := by
  induction sources generalizing t with
  | nil => rfl
  | cons source rest ih =>
    have given : source.entries ⟨files, settings⟩ = source.entries ⟨files, settings'⟩ := by
      cases source with
      | file path required => rfl
      | custom entries => rfl
      | environment env =>
        have filtered := same env List.mem_cons_self
        show Run.ok (env.entries settings) = Run.ok (env.entries settings')
        rw [← env.entries_filter, filtered, env.entries_filter]
    rw [gather_cons, gather_cons, given]
    refine congrArg _ (funext fun entries => ih ?_ _)
    exact fun env member => same env (List.mem_cons_of_mem _ member)

end Options

namespace Environment

/-- Each selected variable yields one entry, in order, whose path is cut from its name in the one way
there is; the pieces put together again are the name, and none has the separator in it. Other variables
never count: environments with the same selected variables load the same. -/
theorem entries_by_name (env : Environment) :
    (∀ settings, List.Forall₂ (fun setting entry => env.Yields setting.1 setting.2 entry)
      (settings.filter (env.Selects ·.1)) (env.entries settings)) ∧
    (∀ tail, ∃! pieces, Text.CutFromLeft env.separator.toList tail pieces) ∧
    (∀ tail pieces, Text.CutFromLeft env.separator.toList tail pieces →
      env.separator.toList.intercalate pieces = tail ∧
        ∀ piece ∈ pieces, ¬ env.separator.toList <:+: piece) ∧
    ∀ files sources settings settings',
      (∀ asked, Source.environment asked ∈ sources →
        settings.filter (asked.Selects ·.1) = settings'.filter (asked.Selects ·.1)) →
        Options.load ⟨files, settings⟩ sources = Options.load ⟨files, settings'⟩ sources := by
  have some_char := env.separator_toList_ne
  refine ⟨env.entries_forall₂, ?_, ?_, ?_⟩
  · intro tail
    exact ⟨_, Text.piecesOn_cut some_char tail, fun _ cutting =>
      (Text.cutFromLeft_iff some_char).1 cutting⟩
  · exact fun tail pieces cutting => ⟨cutting.intercalate, cutting.not_infix some_char⟩
  · intro files sources settings settings' same
    unfold Options.load
    rw [Options.gather_of_selected same]

private def dashed : Environment :=
  ⟨"MDVARS", "--", by decide⟩

private def selectedSettings : List (String × String) :=
  [("MDVARS---DATA---b", "TRUE"), ("MDVARS--Data--Since---", "False"), ("MDVARS--SEVERITY", "error")]

private def spreadSettings : List (String × String) :=
  [("PATH", "/bin"), ("MDVARS---DATA---b", "TRUE"), ("MDVARS--", "x"),
    ("MDVARS--Data--Since---", "False"), ("MDVARS-SEVERITY", "silent"), ("MDVARS--SEVERITY", "error")]

/-- Separators that overlap: of three signs the first two are the separator, and the last belongs to the
next piece. -/
theorem entries_by_name_dashed :
    dashed.entries spreadSettings =
        [⟨["-data", "-b"], .boolean true⟩, ⟨["data", "Since", "-"], .string "False"⟩,
          ⟨["severity"], .string "error"⟩] ∧
      List.Forall₂ (fun setting entry => dashed.Yields setting.1 setting.2 entry)
        selectedSettings (dashed.entries spreadSettings) ∧
      Text.CutFromLeft "--".toList "Data--Since---".toList
        ["Data".toList, "Since".toList, "-".toList] ∧
      "--".toList.intercalate ["Data".toList, "Since".toList, "-".toList] = "Data--Since---".toList ∧
      Options.load ⟨⟨[]⟩, spreadSettings⟩ [.environment dashed] =
        Options.load ⟨⟨[]⟩, selectedSettings⟩ [.environment dashed] := by
  obtain ⟨entries, _, joined, loads⟩ := entries_by_name dashed
  have selected : spreadSettings.filter (dashed.Selects ·.1) = selectedSettings := by
    decide
  have same : ∀ asked, Source.environment asked ∈ [Source.environment dashed] →
      spreadSettings.filter (asked.Selects ·.1) = selectedSettings.filter (asked.Selects ·.1) := by
    intro asked member
    obtain rfl := Source.environment.inj (List.mem_singleton.1 member)
    decide
  have cutting : Text.CutFromLeft "--".toList "Data--Since---".toList
      ["Data".toList, "Since".toList, "-".toList] :=
    (Text.cutFromLeft_iff dashed.separator_toList_ne).2 rfl
  have yields := entries spreadSettings
  rw [selected] at yields
  exact ⟨rfl, yields, cutting, (joined _ _ cutting).1, loads _ _ _ _ same⟩

end Environment

end InlineVariables
