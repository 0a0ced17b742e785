import InlineVariables.Proofs.Lexicon

/-!
Building a lexicon with any handler. A handler has a state of its own and may fail on any call. It is
called on the refused entries in order, up to the first call that fails; `Handler.recording` makes the
calls visible. Main statement: `Lexicon.build_calls`.
-/

namespace InlineVariables

open Toml (Value Table)

/-- What is done with refused entries: each call may change a state, and may fail. -/
abbrev Handler (σ : Type) :=
  ReferenceError → ExceptT ReferenceError (StateM σ) Unit

/-- The result of a computation, and the state after it. -/
def outcome {σ α : Type} (computation : ExceptT ReferenceError (StateM σ) α) (s : σ) :
    Except ReferenceError α × σ :=
  computation.run.run s

theorem outcome_bind {σ α β : Type} (computation : ExceptT ReferenceError (StateM σ) α)
    (next : α → ExceptT ReferenceError (StateM σ) β) (s : σ) :
    outcome (computation >>= next) s =
      match outcome computation s with
      | (.ok a, t) => outcome (next a) t
      | (.error d, t) => (.error d, t) := by
  unfold outcome
  rw [ExceptT.run_bind, StateT.run_bind]
  rcases computation.run.run s with ⟨_ | a, t⟩ <;> rfl

namespace Handler

variable {σ : Type} {h : Handler σ} {s t u : σ}

/-- Calls on these problems in order all succeed, and take one state to the other. -/
inductive Accepts (h : Handler σ) : σ → List ReferenceError → σ → Prop
  | done (s : σ) : Accepts h s [] s
  | call {s t u : σ} {e : ReferenceError} {rest : List ReferenceError}
    (passes : outcome (h e) s = (.ok (), t)) (later : Accepts h t rest u) : Accepts h s (e :: rest) u

/-- The same handler, with a record of what it is called on. -/
def recording (h : Handler σ) : Handler (σ × List ReferenceError) := fun e =>
  ExceptT.mk fun (s, calls) =>
    let (answer, t) := outcome (h e) s
    (answer, t, calls ++ [e])

theorem outcome_recording (h : Handler σ) (e : ReferenceError) (s : σ) (calls : List ReferenceError) :
    outcome (h.recording e) (s, calls) =
      ((outcome (h e) s).1, (outcome (h e) s).2, calls ++ [e]) := rfl

theorem Accepts.recording {errors : List ReferenceError} (accepted : h.Accepts s errors t)
    (calls : List ReferenceError) : h.recording.Accepts (s, calls) errors (t, calls ++ errors) := by
  induction accepted generalizing calls with
  | done s =>
    rw [List.append_nil]
    exact .done _
  | @call s t u e rest passes _ ih =>
    have noted : outcome (h.recording e) (s, calls) = (.ok (), t, calls ++ [e]) := by
      rw [outcome_recording, passes]
    rw [List.append_cons]
    exact .call noted (ih (calls ++ [e]))

theorem accepts_or_fails (h : Handler σ) (s : σ) (errors : List ReferenceError) :
    (∃ t, h.Accepts s errors t) ∨
      ∃ before e after t d u, errors = before ++ e :: after ∧ h.Accepts s before t ∧
        outcome (h e) t = (.error d, u) := by
  induction errors generalizing s with
  | nil => exact .inl ⟨s, .done s⟩
  | cons e rest ih =>
    rcases answer : outcome (h e) s with ⟨d | ⟨⟩, t⟩
    · exact .inr ⟨[], e, rest, s, d, t, rfl, .done s, answer⟩
    · rcases ih t with ⟨u, later⟩ | ⟨before, e', after, t', d, u, rfl, later, fails⟩
      · exact .inl ⟨u, .call answer later⟩
      · exact .inr ⟨e :: before, e', after, t', d, u, rfl, .call answer later, fails⟩

theorem Accepts.outcome_forM {errors : List ReferenceError} (accepted : h.Accepts s errors t) :
    outcome (errors.forM h) s = (.ok (), t) := by
  induction accepted with
  | done s => rfl
  | call passes _ ih =>
    rw [List.forM_eq_forM, List.forM_cons, outcome_bind, passes]
    exact ih

theorem Accepts.outcome_forM_of_error {before : List ReferenceError} {e d : ReferenceError}
    (accepted : h.Accepts s before t) (fails : outcome (h e) t = (.error d, u))
    (after : List ReferenceError) : outcome ((before ++ e :: after).forM h) s = (.error d, u) := by
  induction accepted with
  | done s => rw [List.nil_append, List.forM_eq_forM, List.forM_cons, outcome_bind, fails]
  | call passes _ ih =>
    rw [List.cons_append, List.forM_eq_forM, List.forM_cons, outcome_bind, passes]
    exact ih fails

end Handler

/-- What a record has of a table: texts as they are, other values in their written form, and a label. -/
structure Record.Shows (record : Record) (fields : Table) : Prop where
  absent : ∀ name, Assoc.get? fields name = none → record.get? name = none
  text : ∀ name text, Assoc.get? fields name = some (.string text) → record.get? name = some text
  written : ∀ name value, Assoc.get? fields name = some value → Variable.isSimple value = false →
    record.get? name = some value.display
  label : record.get? "label" = some record.label

theorem Record.get?_ofTable (fields : Table) (name : String) :
    (Record.ofTable fields).get? name = (Assoc.get? fields name).map Record.fieldText := by
  induction fields with
  | nil => rfl
  | cons entry rest ih =>
    obtain ⟨key, value⟩ := entry
    change Assoc.get? ((key, Record.fieldText value) :: _) name = _
    rw [Assoc.get?_cons, Assoc.get?_cons]
    by_cases same : key = name
    · rw [if_pos same, if_pos same]
      rfl
    · rw [if_neg same, if_neg same]
      exact ih

theorem Record.ofTable_shows {fields : Table} (labelled : Assoc.contains fields "label" = true) :
    (Record.ofTable fields).Shows fields := by
  constructor
  case absent =>
    intro name nothing
    rw [get?_ofTable, nothing]
    rfl
  case text =>
    intro name text there
    rw [get?_ofTable, there]
    rfl
  case written =>
    intro name value there other
    rw [get?_ofTable, there]
    cases value with
    | string text => cases other
    | _ => rfl
  case label =>
    obtain ⟨value, there⟩ := Option.isSome_iff_exists.1 labelled
    have found : (Record.ofTable fields).get? "label" = some (Record.fieldText value) := by
      rw [get?_ofTable, there]
      rfl
    rw [label, found]
    rfl

namespace Lexicon

/-- What a lexicon has of a data table: its texts and labelled tables, and nothing else. -/
structure Holds (lexicon : Lexicon) (data : Table) : Prop where
  keys : ∀ key, lexicon.contains key = true ↔
    (∃ text, Assoc.get? data key = some (.string text)) ∨
      ∃ fields, Assoc.get? data key = some (.table fields) ∧ Assoc.contains fields "label" = true
  simple : ∀ key text, Assoc.get? data key = some (.string text) →
    lexicon.get? key = some (.simple text)
  structured : ∀ key fields, Assoc.get? data key = some (.table fields) →
    Assoc.contains fields "label" = true →
      ∃ record, lexicon.get? key = some (.structured record) ∧ record.Shows fields

theorem kept_holds {data : Table} (unique : (Assoc.keys data).Nodup) :
    Holds ⟨kept data⟩ data := by
  have found : ∀ key, get? ⟨kept data⟩ key =
      (Assoc.get? data key).bind fun value => (Variable.ofValue key value).toOption :=
    get?_kept unique
  constructor
  case keys =>
    intro key
    have there : contains ⟨kept data⟩ key =
        ((Assoc.get? data key).bind fun value => (Variable.ofValue key value).toOption).isSome :=
      congrArg Option.isSome (found key)
    rw [there]
    cases Assoc.get? data key with
    | none => simp
    | some value =>
      cases value with
      | table fields =>
        by_cases labelled : Assoc.contains fields "label" = true <;>
          simp [Variable.ofValue, labelled, Except.toOption]
      | _ => simp [Variable.ofValue, Except.toOption]
  case simple =>
    intro key text there
    rw [found, there]
    rfl
  case structured =>
    intro key fields there labelled
    refine ⟨Record.ofTable fields, ?_, Record.ofTable_shows labelled⟩
    rw [found, there, Option.bind_some, Variable.ofValue, if_pos labelled]
    rfl

section

variable {σ : Type} {h : Handler σ} {data : Table} {s t u : σ}

theorem build_eq_forM (h : Handler σ) (unique : (Assoc.keys data).Nodup) :
    build h data = (do
      (rejections data).forM h
      return ⟨kept data⟩) := by
  rw [build, extend_eq, refusals_eq_rejections]
  exact congrArg _ (funext fun _ => congrArg _ (congrArg mk (ofList_kept unique)))

theorem outcome_build_of_accepts (unique : (Assoc.keys data).Nodup)
    (accepted : h.Accepts s (rejections data) t) :
    outcome (build h data) s = (.ok ⟨kept data⟩, t) := by
  rw [build_eq_forM h unique, outcome_bind, accepted.outcome_forM]
  rfl

theorem outcome_build_of_error (unique : (Assoc.keys data).Nodup) {before after : List ReferenceError}
    {e d : ReferenceError} (split : rejections data = before ++ e :: after)
    (accepted : h.Accepts s before t) (fails : outcome (h e) t = (.error d, u)) :
    outcome (build h data) s = (.error d, u) := by
  rw [build_eq_forM h unique, outcome_bind, split, accepted.outcome_forM_of_error fails after]

/-- A build calls its handler on the refused entries in order, up to the first call that fails, and
fails as that call does. When all succeed the lexicon has the other entries. -/
theorem build_calls (h : Handler σ) (unique : (Assoc.keys data).Nodup) (s : σ) :
    (∃ lexicon t, h.Accepts s (rejections data) t ∧
      outcome (build h data) s = (.ok lexicon, t) ∧
      outcome (build h.recording data) (s, []) = (.ok lexicon, t, rejections data) ∧
      lexicon.Holds data ∧
      lexicon.size + (rejections data).length = data.length ∧
      lexicon.builtEvent data = .lexiconBuilt lexicon.size (rejections data).length) ∨
    ∃ before e after t d u, rejections data = before ++ e :: after ∧ h.Accepts s before t ∧
      outcome (h e) t = (.error d, u) ∧
      outcome (build h data) s = (.error d, u) ∧
      outcome (build h.recording data) (s, []) = (.error d, u, before ++ [e]) := by
  rcases h.accepts_or_fails s (rejections data) with ⟨t, accepted⟩ |
    ⟨before, e, after, t, d, u, split, accepted, fails⟩
  · have count : (kept data).length + (rejections data).length = data.length := by
      rw [← refusals_eq_rejections]
      exact length_kept_add_refusals data
    refine .inl ⟨⟨kept data⟩, t, accepted, outcome_build_of_accepts unique accepted,
      outcome_build_of_accepts unique (accepted.recording []), kept_holds unique, count, ?_⟩
    rw [builtEvent, size, ← count, Nat.add_sub_cancel_left]
  · have noted : outcome (h.recording e) (t, [] ++ before) = (.error d, u, before ++ [e]) := by
      rw [Handler.outcome_recording, fails]
      rfl
    exact .inr ⟨before, e, after, t, d, u, split, accepted, fails,
      outcome_build_of_error unique split accepted fails,
      outcome_build_of_error unique split (accepted.recording []) noted⟩

end

/-- Counts its calls, and fails on the one after the first. -/
private def countingHandler : Handler Nat := fun e => do
  let count ← get
  set (count + 1)
  if count = 1 then throw (.unknownVariable e.key)

private def mixedData : Table :=
  [("year", .integer 1948), ("who", .table [("abbr", .boolean true), ("label", .integer 7)]),
    ("none", .table []), ("since", .string "1948"), ("seats", .array [])]

/-- From 0 the second call fails, and the last entry is not looked at; from 2 all calls succeed. -/
theorem build_calls_mixed :
    (Assoc.keys mixedData).Nodup ∧
      (∃ before e after, rejections mixedData = before ++ e :: after ∧
        outcome (build countingHandler mixedData) 0 = (.error (.unknownVariable "none"), 2) ∧
        outcome (build countingHandler.recording mixedData) (0, []) =
          (.error (.unknownVariable "none"), 2, before ++ [e])) ∧
      ∃ lexicon, outcome (build countingHandler mixedData) 2 = (.ok lexicon, 5) ∧
        lexicon.Holds mixedData ∧ lexicon.size + 3 = 5 ∧
        lexicon.builtEvent mixedData = .lexiconBuilt lexicon.size 3 := by
  have unique : (Assoc.keys mixedData).Nodup := by
    decide
  refine ⟨unique, ?_, ?_⟩
  · rcases build_calls countingHandler unique 0 with ⟨_, _, _, built, _⟩ |
      ⟨before, e, after, t, d, u, split, _, _, built, noted⟩
    · cases built
    · cases built
      exact ⟨before, e, after, split, rfl, noted⟩
  · rcases build_calls countingHandler unique 2 with ⟨lexicon, t, _, built, _, holds, count, event⟩ |
      ⟨_, _, _, _, _, _, _, _, _, built, _⟩
    · cases built
      exact ⟨_, rfl, holds, count, event⟩
    · cases built

end Lexicon
end InlineVariables
