import InlineVariables.Proofs.Resolution

/-!
The lexicon of a table: its variables in order, when all entries pass that are none. A build raises these
in order and keeps the others, whatever raising does (`Lexicon.extend_eq`). `Context.build_refused` and
`Context.build_accepted` say what becomes of a context.
-/

namespace InlineVariables

open Toml (Value Table)

theorem Variable.exists_ofValue_iff {key : String} {value : Value} :
    (∃ found, Variable.ofValue key value = .ok found) ↔
      (Variable.isSimple value || Variable.isStructured value) = true := by
  cases value with
  | table entries =>
    by_cases labelled : Assoc.contains entries "label" = true <;>
      simp [ofValue, isSimple, isStructured, labelled]
  | _ => simp [ofValue, isSimple, isStructured]

namespace Lexicon

/-- The variables among entries. -/
def kept : List (String × Value) → List (String × Variable)
  | [] => []
  | (key, value) :: rest =>
    match Variable.ofValue key value with
    | .ok found => (key, found) :: kept rest
    | .error _ => kept rest

/-- What is raised for the entries that are no variables. -/
def refusals : List (String × Value) → List ReferenceError
  | [] => []
  | (key, value) :: rest =>
    match Variable.ofValue key value with
    | .ok _ => refusals rest
    | .error e => e :: refusals rest

theorem kept_keys_sublist (entries : List (String × Value)) :
    ((kept entries).map (·.1)).Sublist (entries.map (·.1)) := by
  induction entries with
  | nil => exact .refl []
  | cons entry rest ih =>
    obtain ⟨key, value⟩ := entry
    rw [kept]
    split
    · exact ih.cons_cons key
    · exact ih.cons key

/-- What is refused: neither a text nor a table with a label, each with its key and the name of its type. -/
def rejections (data : Table) : List ReferenceError :=
  (data.filter fun entry => !(Variable.isSimple entry.2 || Variable.isStructured entry.2)).map
    fun entry => .unknownVariableType entry.1 (Variable.describe entry.2)

theorem refusals_eq_rejections (data : Table) : refusals data = rejections data := by
  induction data with
  | nil => rfl
  | cons entry rest ih =>
    obtain ⟨key, value⟩ := entry
    have next : rejections ((key, value) :: rest) =
        if Variable.isSimple value || Variable.isStructured value then rejections rest
        else .unknownVariableType key (Variable.describe value) :: rejections rest := by
      rw [rejections, List.filter_cons]
      cases Variable.isSimple value || Variable.isStructured value <;> rfl
    rw [next, refusals, ih]
    split
    · rename_i found answer
      rw [if_pos (Variable.exists_ofValue_iff.1 ⟨found, answer⟩)]
    · rename_i e answer
      obtain ⟨simple, structured, rfl⟩ := Variable.ofValue_eq_error_iff.1 answer
      rw [simple, structured]
      rfl

theorem get?_kept {data : Table} (unique : (Assoc.keys data).Nodup) (key : String) :
    Assoc.get? (kept data) key =
      (Assoc.get? data key).bind fun value => (Variable.ofValue key value).toOption := by
  induction data with
  | nil => rfl
  | cons entry rest ih =>
    obtain ⟨k, value⟩ := entry
    obtain ⟨fresh, unique⟩ := List.nodup_cons.1 unique
    rw [kept, Assoc.get?_cons]
    by_cases same : k = key
    · subst same
      have nothing : Assoc.get? (kept rest) k = none := by
        rw [ih unique, Assoc.get?_eq_none_iff.2 fresh]
        rfl
      rw [if_pos rfl, Option.bind_some]
      split
      · rename_i found answer
        rw [Assoc.get?_cons, if_pos rfl, answer]
        rfl
      · rename_i e answer
        rw [nothing, answer]
        rfl
    · rw [if_neg same]
      split
      · rw [Assoc.get?_cons, if_neg same, ih unique]
      · exact ih unique

theorem length_kept_add_refusals (data : Table) :
    (kept data).length + (refusals data).length = data.length := by
  induction data with
  | nil => rfl
  | cons entry rest ih =>
    obtain ⟨key, value⟩ := entry
    rw [kept, refusals]
    split <;> simp only [List.length_cons] <;> omega

theorem refusals_not_missing {entries : List (String × Value)} :
    ∀ e ∈ refusals entries, e.isMissing = false := by
  induction entries with
  | nil => exact nofun
  | cons entry rest ih =>
    obtain ⟨key, value⟩ := entry
    rw [refusals]
    split
    · exact ih
    · rename_i e refused
      obtain ⟨_, _, rfl⟩ := Variable.ofValue_eq_error_iff.1 refused
      exact List.forall_mem_cons.2 ⟨rfl, ih⟩

/-- A build raises what it refuses, entry after entry, and has the rest. -/
theorem extend_eq {m : Type → Type} [Monad m] [LawfulMonad m] (raise : ReferenceError → m Unit)
    (lexicon : Lexicon) (entries : List (String × Value)) :
    extend raise lexicon entries = (do
      (refusals entries).forM raise
      return ⟨(kept entries).foldl (fun table entry => Assoc.insert table entry.1 entry.2)
        lexicon.entries⟩) := by
  induction entries generalizing lexicon with
  | nil =>
    rw [extend, refusals, List.forM_eq_forM, List.forM_nil, pure_bind]
    rfl
  | cons entry rest ih =>
    obtain ⟨key, value⟩ := entry
    rw [extend, refusals, kept]
    cases Variable.ofValue key value with
    | ok found => exact ih (lexicon.insert key found)
    | error e =>
      dsimp only
      rw [List.forM_eq_forM, List.forM_cons, bind_assoc]
      exact congrArg _ (funext fun _ => ih lexicon)

theorem build_raising (policy : Policy) (data : Table) :
    build policy.raise data =
      (policy.raiseAll (refusals data)).andThen fun _ => .ok ⟨Assoc.ofList (kept data)⟩ := by
  rw [Policy.raiseAll_eq_forM]
  exact extend_eq policy.raise empty data

theorem ofList_kept {data : Table} (unique : (Assoc.keys data).Nodup) :
    Assoc.ofList (kept data) = kept data := by
  have fresh : (Assoc.keys ([] ++ kept data)).Nodup :=
    unique.sublist (kept_keys_sublist data)
  exact Assoc.foldl_insert_of_new fresh

end Lexicon

namespace Context

variable {options : Options} {diagnostics : Diagnostics}

theorem build_raising (some_data : options.data ≠ []) :
    build (some options) diagnostics =
      (((policyOf options diagnostics).raiseAll (Lexicon.refusals options.data)).mapError
        .rejected).andThen fun _ =>
          ⟨.ok ⟨⟨Assoc.ofList (Lexicon.kept options.data)⟩, policyOf options diagnostics,
              options.className⟩,
            [Lexicon.builtEvent ⟨Assoc.ofList (Lexicon.kept options.data)⟩ options.data]⟩ := by
  have filled : ¬ options.data.isEmpty = true := by
    rw [List.isEmpty_iff]
    exact some_data
  rw [build, if_neg filled]
  dsimp only
  rw [Lexicon.build_raising, Run.mapError_andThen, Run.bind_eq, Run.andThen_assoc]
  rfl

theorem build_eq (some_data : options.data ≠ []) (unique : (Assoc.keys options.data).Nodup) :
    build (some options) diagnostics =
      (((policyOf options diagnostics).raiseAll (Lexicon.refusals options.data)).mapError
        .rejected).andThen fun _ =>
          ⟨.ok ⟨⟨Lexicon.kept options.data⟩, policyOf options diagnostics, options.className⟩,
            [Lexicon.builtEvent ⟨Lexicon.kept options.data⟩ options.data]⟩ := by
  rw [build_raising some_data, Lexicon.ofList_kept unique]

theorem ignores_refusal (policy : Policy) (data : Table) :
    ∀ e ∈ Lexicon.refusals data, policy.ignores e = false := by
  intro e refused
  rw [Policy.ignores, Lexicon.refusals_not_missing e refused, Bool.and_false]

/-- Under `error` the first entry that is no variable is fatal, and nothing is reported before it. -/
theorem raiseAll_refusals_of_strict (strict : options.severity = .error) {e : ReferenceError}
    {rest : List ReferenceError} (refused : Lexicon.refusals options.data = e :: rest) :
    (policyOf options diagnostics).raiseAll (Lexicon.refusals options.data) = .fail e := by
  have fatal : (policyOf options diagnostics).ignores e = false := by
    apply ignores_refusal _ options.data e
    rw [refused]
    exact List.mem_cons_self
  have ignored : ∀ d ∈ ([] : List ReferenceError), (policyOf options diagnostics).ignores d = true :=
    nofun
  rw [refused]
  exact Policy.raiseAll_fatal strict ignored fatal rest

/-- What is reported of the entries that are no variables. -/
def reportedRefusals (options : Options) : List ReferenceError :=
  if options.severity = .warn then Lexicon.refusals options.data else []

theorem raiseAll_refusals_of_passes
    (passes : options.severity ≠ .error ∨ Lexicon.refusals options.data = []) :
    (policyOf options diagnostics).raiseAll (Lexicon.refusals options.data) =
      ⟨.ok (), (policyOf options diagnostics).warnings (reportedRefusals options)⟩ := by
  unfold reportedRefusals
  cases severity : options.severity with
  | error =>
    rcases passes with other | nothing
    · exact absurd severity other
    · rw [nothing]
      rfl
  | warn =>
    rw [if_pos rfl]
    exact Policy.raiseAll_warn severity _
  | silent =>
    rw [if_neg nofun, Policy.raiseAll_silent severity]
    have none_ignored : (Lexicon.refusals options.data).filter
        (policyOf options diagnostics).ignores = [] := by
      rw [List.filter_eq_nil_iff]
      intro e refused
      rw [ignores_refusal _ _ e refused]
      exact Bool.false_ne_true
    rw [none_ignored]

/-- Under `error` the first entry that is no variable ends the build. -/
theorem build_refused (some_data : options.data ≠ []) (unique : (Assoc.keys options.data).Nodup)
    (strict : options.severity = .error) {e : ReferenceError} {rest : List ReferenceError}
    (refused : Lexicon.refusals options.data = e :: rest) :
    build (some options) diagnostics = .fail (.rejected e) := by
  rw [build_eq some_data unique, raiseAll_refusals_of_strict strict refused]
  rfl

/-- Otherwise all variables are kept, and the rest is reported under `warn`. -/
theorem build_accepted (some_data : options.data ≠ []) (unique : (Assoc.keys options.data).Nodup)
    (passes : options.severity ≠ .error ∨ Lexicon.refusals options.data = []) :
    build (some options) diagnostics =
      ⟨.ok ⟨⟨Lexicon.kept options.data⟩, policyOf options diagnostics, options.className⟩,
        (policyOf options diagnostics).warnings (reportedRefusals options) ++
          [Lexicon.builtEvent ⟨Lexicon.kept options.data⟩ options.data]⟩ := by
  rw [build_eq some_data unique, raiseAll_refusals_of_passes passes]
  rfl

end Context

end InlineVariables
