import InlineVariables.Inline.Host
import InlineVariables.Proofs.Lexicon

/-!
The order of the data, and the severity, leave a lexicon as it is. `Context.build_ok_iff` says when a
context is built and what it is. Contexts that look up the same under every key resolve and render alike
(`Context.Interchangeable`). Main statement: `Context.build_permuted`.
-/

namespace InlineVariables

open Toml (Value Table)

namespace Lexicon

variable {a b : Table}

theorem kept_eq_filterMap (data : Table) :
    kept data = data.filterMap fun entry =>
      (Variable.ofValue entry.1 entry.2).toOption.map fun found => (entry.1, found) := by
  induction data with
  | nil => rfl
  | cons entry rest ih =>
    obtain ⟨key, value⟩ := entry
    rw [kept, List.filterMap_cons, ← ih]
    cases Variable.ofValue key value <;> rfl

theorem kept_perm (permuted : a.Perm b) : (kept a).Perm (kept b) := by
  rw [kept_eq_filterMap, kept_eq_filterMap]
  exact permuted.filterMap _

theorem rejections_perm (permuted : a.Perm b) : (rejections a).Perm (rejections b) :=
  (permuted.filter _).map _

theorem get?_kept_perm (unique : (Assoc.keys a).Nodup) (permuted : a.Perm b) (key : String) :
    Assoc.get? (kept a) key = Assoc.get? (kept b) key :=
  Assoc.get?_perm (unique.sublist (kept_keys_sublist a)) (kept_perm permuted) key

theorem isEmpty_iff {lexicon : Lexicon} :
    lexicon.isEmpty = true ↔ ∀ key, lexicon.get? key = none := by
  obtain ⟨entries⟩ := lexicon
  cases entries with
  | nil => exact iff_of_true rfl fun _ => rfl
  | cons entry rest =>
    refine iff_of_false nofun fun nothing => ?_
    have found := nothing entry.1
    rw [get?, Assoc.get?_cons, if_pos rfl] at found
    cases found

end Lexicon

namespace Context

/-- Two contexts with the same settings that look up the same under every key. -/
structure Interchangeable (ctx other : Context) : Prop where
  policy : ctx.policy = other.policy
  className : ctx.className = other.className
  lexicon : ∀ key, ctx.lexicon.get? key = other.lexicon.get? key

namespace Interchangeable

variable {ctx other : Context}

theorem resolve (same : ctx.Interchangeable other) (body : String) :
    ctx.resolve body = other.resolve body := by
  have found := same.lexicon (Reference.ofBody body).key
  rw [resolve_eq, resolve_eq, same.policy]
  unfold problems replacement wrap
  rw [found, same.className]

theorem isEmpty (same : ctx.Interchangeable other) : ctx.lexicon.isEmpty = other.lexicon.isEmpty := by
  rw [Bool.eq_iff_iff, Lexicon.isEmpty_iff, Lexicon.isEmpty_iff]
  exact forall_congr' fun key => by rw [same.lexicon key]

/-- A host cannot tell them apart: the rule for references is the same. -/
theorem variableRule (same : ctx.Interchangeable other) :
    Inline.variableRule ctx = Inline.variableRule other := by
  funext s silent
  unfold Inline.variableRule
  simp only [same.isEmpty, same.resolve]

end Interchangeable

variable {options : Options} {diagnostics : Diagnostics}

theorem build_of_empty (empty : options.data = []) :
    build (some options) diagnostics = .fail .missingConfiguration := by
  have nothing : options.data.isEmpty = true := List.isEmpty_iff.2 empty
  rw [build, if_pos nothing]

/-- Entries are refused under `error` only. -/
def Passes (options : Options) : Prop :=
  options.severity = .error → Lexicon.rejections options.data = []

theorem Passes.or (passes : Passes options) :
    options.severity ≠ .error ∨ Lexicon.refusals options.data = [] := by
  rw [Lexicon.refusals_eq_rejections]
  exact imp_iff_not_or.1 passes

/-- The context of options whose refused entries pass. -/
def ofOptions (options : Options) (diagnostics : Diagnostics) : Context :=
  ⟨⟨Lexicon.kept options.data⟩, policyOf options diagnostics, options.className⟩

/-- A context is built unless there is no data, or an entry is refused under `error`. -/
theorem build_ok_iff (unique : (Assoc.keys options.data).Nodup) {ctx : Context} :
    (build (some options) diagnostics).result = .ok ctx ↔
      options.data ≠ [] ∧ Passes options ∧ ctx = ofOptions options diagnostics := by
  by_cases empty : options.data = []
  · rw [build_of_empty empty]
    exact iff_of_false nofun fun built => built.1 empty
  by_cases passes : Passes options
  · rw [build_accepted empty unique passes.or]
    constructor
    · rintro ⟨⟩
      exact ⟨empty, passes, rfl⟩
    · rintro ⟨_, _, rfl⟩
      rfl
  · obtain ⟨strict, refused⟩ := Classical.not_imp.1 passes
    rw [← Lexicon.refusals_eq_rejections] at refused
    obtain ⟨e, rest, raised⟩ := List.exists_cons_of_ne_nil refused
    rw [build_refused empty unique strict raised]
    exact iff_of_false nofun fun built => passes built.2.1

theorem exists_build_iff (unique : (Assoc.keys options.data).Nodup) :
    (∃ ctx, (build (some options) diagnostics).result = .ok ctx) ↔
      options.data ≠ [] ∧ Passes options := by
  simp only [build_ok_iff unique, exists_and_left, exists_eq, and_true]

theorem of_build {ctx : Context} (built : (build (some options) diagnostics).result = .ok ctx)
    (unique : (Assoc.keys options.data).Nodup) :
    options.data ≠ [] ∧ Passes options ∧ ctx = ofOptions options diagnostics :=
  (build_ok_iff unique).1 built

section

variable {data : Table} (unique : (Assoc.keys options.data).Nodup) (permuted : options.data.Perm data)

include permuted

theorem reportedRefusals_perm :
    (reportedRefusals options).Perm (reportedRefusals { options with data }) := by
  unfold reportedRefusals
  dsimp only
  split
  · rw [Lexicon.refusals_eq_rejections, Lexicon.refusals_eq_rejections]
    exact Lexicon.rejections_perm permuted
  · exact .refl _

theorem passes_perm : Passes options ↔ Passes { options with data } := by
  have rejected : (Lexicon.rejections options.data).Perm (Lexicon.rejections data) :=
    Lexicon.rejections_perm permuted
  exact imp_congr_right fun _ => ⟨fun none_left => (none_left ▸ rejected).nil_eq.symm,
    fun none_left => (none_left ▸ rejected).eq_nil⟩

theorem filled_perm : options.data ≠ [] ↔ data ≠ [] :=
  not_congr ⟨fun empty => (empty ▸ permuted).nil_eq.symm, fun empty => (empty ▸ permuted).eq_nil⟩

include unique

theorem ofOptions_perm :
    (ofOptions options diagnostics).Interchangeable (ofOptions { options with data } diagnostics) where
  policy := rfl
  className := rfl
  lexicon := Lexicon.get?_kept_perm unique permuted

theorem build_events_perm (filled : options.data ≠ []) (passes : Passes options) :
    (build (some options) diagnostics).events.Perm
      (build (some { options with data }) diagnostics).events := by
  have unique' : (Assoc.keys data).Nodup := (permuted.map _).nodup_iff.1 unique
  have passes' : Passes { options with data } := (passes_perm permuted).1 passes
  have kept : (Lexicon.kept options.data).length = (Lexicon.kept data).length :=
    (Lexicon.kept_perm permuted).length_eq
  have built : Lexicon.builtEvent ⟨Lexicon.kept options.data⟩ options.data =
      Lexicon.builtEvent ⟨Lexicon.kept data⟩ data := by
    unfold Lexicon.builtEvent Lexicon.size
    rw [kept, permuted.length_eq]
  rw [build_accepted filled unique passes.or,
    build_accepted ((filled_perm permuted).1 filled) unique' passes'.or, built]
  exact ((reportedRefusals_perm permuted).map _).append_right _

end

/-- The order of the data does not show in a context: it is built for both orders or for neither, and
what is resolved and rendered is the same. Of the same data every severity builds the same lexicon, though
`error` only when nothing is refused. -/
theorem build_permuted (options : Options) (unique : (Assoc.keys options.data).Nodup) {data : Table}
    (permuted : options.data.Perm data) (diagnostics : Diagnostics) :
    let first := build (some options) diagnostics
    let second := build (some { options with data }) diagnostics
    ((∃ ctx, first.result = .ok ctx) ↔ ∃ ctx, second.result = .ok ctx) ∧
    (∀ ctx other, first.result = .ok ctx → second.result = .ok other →
      (∀ body, ctx.resolve body = other.resolve body) ∧
      (∀ (before after : List (String × Inline.Rule)) name hooks source,
        let host (shown : Context) : Inline.PlainHost :=
          ⟨before ++ (name, Inline.variableRule shown) :: after, hooks⟩
        (host ctx).render source = (host other).render source ∧
          (host ctx).tokenize source = (host other).tokenize source) ∧
      ∀ id, (recorded id first.events).Perm (recorded id second.events)) ∧
    (∀ severity, (∃ ctx, (build (some { options with severity }) diagnostics).result = .ok ctx) ↔
      options.data ≠ [] ∧ (severity = .error → Lexicon.rejections options.data = [])) ∧
    ∀ severity severity' diagnostics' ctx other,
      (build (some { options with severity }) diagnostics).result = .ok ctx →
      (build (some { options with severity := severity' }) diagnostics').result = .ok other →
        ctx.lexicon = other.lexicon := by
  intro first second
  have unique' : (Assoc.keys data).Nodup := (permuted.map _).nodup_iff.1 unique
  refine ⟨?_, ?_, fun severity => exists_build_iff unique, ?_⟩
  · have second_iff := @exists_build_iff { options with data } diagnostics unique'
    rw [exists_build_iff unique, second_iff]
    exact and_congr (filled_perm permuted) (passes_perm permuted)
  · intro ctx other built built'
    obtain ⟨filled, passes, rfl⟩ := of_build built unique
    obtain ⟨_, _, rfl⟩ := of_build built' unique'
    have same := @ofOptions_perm options diagnostics data unique permuted
    refine ⟨same.resolve, ?_, ?_⟩
    · intro before after name hooks source host
      have hosts : host (ofOptions options diagnostics) =
          host (ofOptions { options with data } diagnostics) := by
        simp only [host, same.variableRule]
      exact ⟨congrArg (·.render source) hosts, congrArg (·.tokenize source) hosts⟩
    · exact fun id => (build_events_perm unique permuted filled passes).filterMap _
  · intro severity severity' diagnostics' ctx other built built'
    obtain ⟨_, _, rfl⟩ := of_build built unique
    obtain ⟨_, _, rfl⟩ := of_build built' unique
    rfl

private def founded : Options :=
  { data := [("since", .string "1948"), ("year", .integer 1948), ("who", .table [("label", .string "WHO")]),
      ("seats", .array [])] }

/-- The entries in the other order: two are refused, and reported in the other order. -/
theorem build_permuted_founded :
    let backwards : Options := { founded with data := founded.data.reverse }
    ∃ ctx other, (Assoc.keys founded.data).Nodup ∧ founded.data.Perm backwards.data ∧
      (build (some founded) (.recorder 1)).result = .ok ctx ∧
      (build (some backwards) (.recorder 1)).result = .ok other ∧
      ctx.resolve "who|abbr" = other.resolve "who|abbr" ∧
      recorded 1 (build (some founded) (.recorder 1)).events =
        [.unknownVariableType "year" "integer", .unknownVariableType "seats" "array"] ∧
      (recorded 1 (build (some founded) (.recorder 1)).events).Perm
        (recorded 1 (build (some backwards) (.recorder 1)).events) ∧
      ∃ quiet, (build (some { founded with severity := .silent }) .log).result = .ok quiet ∧
        ctx.lexicon = quiet.lexicon := by
  intro backwards
  have unique : (Assoc.keys founded.data).Nodup := by
    decide
  have permuted : founded.data.Perm backwards.data := (List.reverse_perm _).symm
  obtain ⟨_, alike, _, lexicons⟩ := build_permuted founded unique permuted (.recorder 1)
  obtain ⟨resolved, _, reports⟩ := alike _ _ rfl rfl
  exact ⟨_, _, unique, permuted, rfl, rfl, resolved _, rfl, reports 1, _, rfl,
    lexicons .warn .silent .log _ _ rfl rfl⟩

end Context

end InlineVariables
