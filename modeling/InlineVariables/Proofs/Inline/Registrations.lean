import InlineVariables.Inline.Command
import InlineVariables.Proofs.Lexicon

/-!
Registrations of contexts in a host, in a sequence of commands. `Context.refusal?` says from the options
alone whether a context is built, and why not. A registration that fails reports nothing and leaves the
host as it was, so it can be dropped from the sequence (`failed_registrations_leave_no_trace`).
-/

namespace InlineVariables

open Toml (Value Table)

namespace Lexicon

/-- The first entry that is neither a string nor a table with a label. -/
def firstRefused? (data : Table) : Option (String × Value) :=
  data.find? fun entry => !(Variable.isSimple entry.2 || Variable.isStructured entry.2)

theorem head?_refusals (data : Table) :
    (refusals data).head? = (firstRefused? data).map fun entry =>
      .unknownVariableType entry.1 (Variable.describe entry.2) := by
  rw [refusals_eq_rejections, rejections, List.head?_map, List.head?_filter]
  rfl

end Lexicon

namespace Context

/-- Why no context is built from options: there are none, they have no data, or under `error` an entry
of the data is no variable, of which the first counts. -/
def refusal? : Option Options → Option ContextError
  | none => some .missingConfiguration
  | some options =>
    if options.data.isEmpty then some .missingConfiguration
    else if options.severity = .error then
      (Lexicon.firstRefused? options.data).map fun entry =>
        .rejected (.unknownVariableType entry.1 (Variable.describe entry.2))
    else none

theorem build_of_refusal {options : Option Options} {e : ContextError}
    (refused : refusal? options = some e) (diagnostics : Diagnostics) :
    build options diagnostics = .fail e := by
  cases options with
  | none =>
    cases refused
    rfl
  | some options =>
    unfold refusal? at refused
    dsimp only at refused
    split at refused
    · rename_i empty
      cases refused
      rw [build, if_pos empty]
    · rename_i filled
      have some_data : options.data ≠ [] := fun nothing => filled (List.isEmpty_iff.2 nothing)
      split at refused
      · rename_i strict
        obtain ⟨entry, first, rfl⟩ := Option.map_eq_some_iff.1 refused
        have head := Lexicon.head?_refusals options.data
        rw [first] at head
        obtain ⟨rest, raised⟩ := List.head?_eq_some_iff.1 head
        rw [build_raising some_data, raiseAll_refusals_of_strict strict raised]
        rfl
      · cases refused

theorem exists_build_of_no_refusal {options : Option Options} (accepted : refusal? options = none)
    (diagnostics : Diagnostics) : ∃ ctx, (build options diagnostics).result = .ok ctx := by
  cases options with
  | none => cases accepted
  | some options =>
    unfold refusal? at accepted
    dsimp only at accepted
    split at accepted
    · cases accepted
    · rename_i filled
      have some_data : options.data ≠ [] := fun nothing => filled (List.isEmpty_iff.2 nothing)
      have passes : options.severity ≠ .error ∨ Lexicon.refusals options.data = [] := by
        split at accepted
        · have head := Lexicon.head?_refusals options.data
          rw [Option.map_eq_none_iff.1 accepted] at head
          exact .inr (List.head?_eq_none_iff.1 head)
        · rename_i lenient
          exact .inl lenient
      rw [build_raising some_data, raiseAll_refusals_of_passes passes]
      exact ⟨_, rfl⟩

theorem build_error_iff {options : Option Options} {diagnostics : Diagnostics} {e : ContextError} :
    (build options diagnostics).result = .error e ↔ refusal? options = some e := by
  constructor
  · intro fails
    cases outcome : refusal? options with
    | none =>
      obtain ⟨ctx, built⟩ := exists_build_of_no_refusal outcome diagnostics
      cases built.symm.trans fails
    | some d =>
      rw [build_of_refusal outcome diagnostics] at fails
      cases fails
      rfl
  · intro refused
    rw [build_of_refusal refused diagnostics]
    rfl

end Context

namespace Inline

/-- A registration of a context: the name of its rule, what the context is built from, and whether the
hook for its tokens is set as well. -/
structure Registration where
  ruleName : String
  options : Option Options
  diagnostics : Diagnostics
  setsHook : Bool

namespace Registration

def build (registration : Registration) : Run ContextError Context :=
  Context.build registration.options registration.diagnostics

/-- The host once the context is built. -/
def applyTo (registration : Registration) (host : PlainHost) (ctx : Context) : PlainHost where
  rules := host.rules ++ [(registration.ruleName, variableRule ctx)]
  hooks :=
    if registration.setsHook then Assoc.insert host.hooks variableKind Token.content else host.hooks

def answer (registration : Registration) (ctx : Context) : Answer :=
  if registration.setsHook then .size ctx.lexicon.size else .done

def action (registration : Registration) : Action ContextError Context :=
  .registerContext registration.options registration.diagnostics registration.applyTo

end Registration

/-- The registration of a context that a command asks for. -/
def Command.registration? : Command → Option Registration
  | install options => some ⟨variableRuleName, options, .log, true⟩
  | installContext options diagnostics => some ⟨variableRuleName, options, diagnostics, true⟩
  | addVariableRule name options diagnostics => some ⟨name, options, diagnostics, false⟩
  | _ => none

/-- A command with its outcome. -/
abbrev Performed := Command × Run CommandError Answer

/-- The command is to register a context, and has failed. -/
def Performed.failedRegistration (step : Performed) : Bool :=
  step.1.registration?.isSome && !step.2.result.isOk

namespace PlainHost

variable {host next : PlainHost} {command : Command} {registration : Registration}

/-- What is seen of a command besides the host after it. -/
def outcome (host : PlainHost) (command : Command) : Run CommandError Answer :=
  (host.perform command).run

theorem performAll_cons (host : PlainHost) (command : Command) (commands : List Command) :
    host.performAll (command :: commands) =
      (host.outcome command :: ((host.after command).performAll commands).1,
        ((host.after command).performAll commands).2) := rfl

/-- The commands with their outcomes. -/
def steps (host : PlainHost) (commands : List Command) : List Performed :=
  commands.zip (host.performAll commands).1

theorem steps_cons (host : PlainHost) (command : Command) (commands : List Command) :
    host.steps (command :: commands) =
      (command, host.outcome command) :: (host.after command).steps commands := rfl

/-- The steps without the failed registrations. -/
def keptSteps (host : PlainHost) (commands : List Command) : List Performed :=
  (host.steps commands).filter (!·.failedRegistration)

theorem perform_registration (registers : command.registration? = some registration)
    (host : PlainHost) :
    host.perform command =
      ⟨(registration.action host).host,
        (registration.build.mapError .context).andThen fun ctx => .ok (registration.answer ctx)⟩ := by
  have same : command.action =
      registration.action.mapError .context >>= fun ctx => pure (registration.answer ctx) := by
    cases command with
    | install | installContext | addVariableRule =>
      cases registers
      rfl
    | _ => cases registers
  rw [perform, same, Action.mapError_bind_pure, Registration.action, Action.run_registerContext]
  rfl

theorem perform_of_refusal (registers : command.registration? = some registration)
    {e : ContextError} (refused : Context.refusal? registration.options = some e)
    (host : PlainHost) : host.perform command = ⟨host, .fail (.context e)⟩ := by
  have fails : Context.build registration.options registration.diagnostics = .fail e :=
    Context.build_of_refusal refused registration.diagnostics
  have untouched : (registration.action host).host = host :=
    Action.host_registerContext_of_error (congrArg Run.result fails) host
  rw [perform_registration registers, untouched, Registration.build, fails]
  rfl

theorem perform_of_build (registers : command.registration? = some registration) {ctx : Context}
    (built : registration.build.result = .ok ctx) (host : PlainHost) :
    (host.perform command).result =
      .ok (registration.applyTo host ctx, registration.answer ctx) := by
  have carried : (registration.build.mapError CommandError.context).result = .ok ctx :=
    congrArg (Except.mapError CommandError.context) built
  have registered : (registration.action host).host = registration.applyTo host ctx :=
    Action.host_registerContext_of_ok built host
  rw [perform_registration registers, registered, Run.andThen_of_ok _ carried]
  rfl

theorem perform_error_iff (registers : command.registration? = some registration)
    {e : CommandError} :
    (host.perform command).result = .error e ↔
      ∃ d, Context.refusal? registration.options = some d ∧ e = .context d := by
  constructor
  · intro fails
    cases built : registration.build.result with
    | error d =>
      have refused := Context.build_error_iff.1 built
      rw [perform_of_refusal registers refused] at fails
      cases fails
      exact ⟨d, refused, rfl⟩
    | ok ctx => cases (perform_of_build registers built host).symm.trans fails
  · rintro ⟨d, refused, rfl⟩
    rw [perform_of_refusal registers refused]
    rfl

theorem exists_build_of_perform (registers : command.registration? = some registration)
    {answer : Answer} (yields : (host.perform command).result = .ok (next, answer)) :
    ∃ ctx, registration.build.result = .ok ctx ∧ next = registration.applyTo host ctx := by
  cases built : registration.build.result with
  | error d =>
    rw [perform_of_refusal registers (Context.build_error_iff.1 built)] at yields
    cases yields
  | ok ctx =>
    cases (perform_of_build registers built host).symm.trans yields
    exact ⟨ctx, rfl, rfl⟩

theorem perform_of_failed (registers : command.registration? = some registration)
    {e : CommandError} (fails : (host.perform command).result = .error e) :
    (host.perform command).events = [] ∧ host.after command = host := by
  obtain ⟨d, refused, rfl⟩ := (perform_error_iff registers).1 fails
  rw [after, perform_of_refusal registers refused]
  exact ⟨rfl, rfl⟩

theorem of_failedRegistration
    (failed : Performed.failedRegistration (command, host.outcome command) = true) :
    (host.outcome command).events = [] ∧ host.after command = host := by
  obtain ⟨registers, fails⟩ := Bool.and_eq_true_iff.1 failed
  obtain ⟨registration, registers⟩ := Option.isSome_iff_exists.1 registers
  cases result : (host.perform command).run.result with
  | error e => exact perform_of_failed registers (Aftermath.result_eq_error_iff.2 result)
  | ok answer =>
    unfold outcome at fails
    rw [result] at fails
    cases fails

theorem performAll_keptSteps (host : PlainHost) (commands : List Command) :
    host.performAll ((host.keptSteps commands).map (·.1)) =
        ((host.keptSteps commands).map (·.2), (host.performAll commands).2) ∧
      (host.keptSteps commands).flatMap (·.2.events) =
        (host.steps commands).flatMap (·.2.events) := by
  -- A failed registration drops out; after any other command the two sequences meet the same host.
  induction commands generalizing host with
  | nil => exact ⟨rfl, rfl⟩
  | cons command commands ih =>
    obtain ⟨rest, events⟩ := ih (host.after command)
    unfold keptSteps at rest events ⊢
    rw [steps_cons, List.filter_cons, performAll_cons]
    split
    · simp only [List.map_cons, List.flatMap_cons]
      rw [performAll_cons, rest, events]
      exact ⟨rfl, rfl⟩
    · rename_i dropped
      rw [Bool.not_eq_true, Bool.not_eq_false'] at dropped
      obtain ⟨quiet, unchanged⟩ := of_failedRegistration dropped
      rw [unchanged] at rest events ⊢
      rw [List.flatMap_cons, quiet, List.nil_append]
      exact ⟨rest, events⟩

/-- A context is registered unless its options are refused. A refused registration reports nothing and
changes nothing, so that all the others of a sequence of commands come out the same without it. Any
other one adds its rule behind the rules of the host, and touches no hook but its own. -/
theorem failed_registrations_leave_no_trace (host : PlainHost) (commands : List Command) :
    host.performAll ((host.keptSteps commands).map (·.1)) =
        ((host.keptSteps commands).map (·.2), (host.performAll commands).2) ∧
      (host.keptSteps commands).flatMap (·.2.events) =
        (host.steps commands).flatMap (·.2.events) ∧
    ∀ (before : PlainHost) (command : Command) (registration : Registration),
      command.registration? = some registration →
        (∀ e, (before.perform command).result = .error e ↔
          ∃ d, Context.refusal? registration.options = some d ∧ e = .context d) ∧
        (∀ e, (before.perform command).result = .error e →
          (before.perform command).events = [] ∧ before.after command = before) ∧
        ∀ next answer, (before.perform command).result = .ok (next, answer) →
          before.after command = next ∧
          (∃ ctx, registration.build.result = .ok ctx ∧
            next.rules = before.rules ++ [(registration.ruleName, variableRule ctx)]) ∧
          (registration.setsHook = true →
            Assoc.get? next.hooks variableKind = some Token.content) ∧
          ∀ kind, kind ≠ variableKind ∨ registration.setsHook = false →
            Assoc.get? next.hooks kind = Assoc.get? before.hooks kind := by
  obtain ⟨same, reported⟩ := performAll_keptSteps host commands
  refine ⟨same, reported, ?_⟩
  intro before command registration registers
  refine ⟨fun e => perform_error_iff registers, fun e => perform_of_failed registers, ?_⟩
  intro next answer yields
  have arrives : before.after command = next := (Aftermath.result_eq_ok_iff.1 yields).1
  obtain ⟨ctx, built, rfl⟩ := exists_build_of_perform registers yields
  refine ⟨arrives, ⟨ctx, built, rfl⟩, ?_, ?_⟩
  · intro sets
    rw [Registration.applyTo, if_pos sets, Assoc.get?_insert_self]
  · intro kind spared
    unfold Registration.applyTo
    dsimp only
    split
    · rename_i sets
      rcases spared with other | unset
      · exact Assoc.get?_insert_other _ _ (Ne.symm other)
      · rw [sets] at unset
        cases unset
    · rfl

private def founding (severity : Severity) : Options :=
  { data := [("since", .string "1948"), ("year", .integer 1948)], severity }

private def attempts : List Command :=
  [.install none, .installContext (some (founding .error)) (.recorder 1),
    .installContext (some (founding .warn)) (.recorder 1), .ruleNames]

/-- Two installations fail before one succeeds with the same recorder. -/
theorem failed_registrations_leave_no_trace_founding :
    (empty.performAll attempts).1.take 2 =
        [.fail (.context .missingConfiguration),
          .fail (.context (.rejected (.unknownVariableType "year" "integer")))] ∧
      empty.performAll (attempts.drop 2) =
        ((empty.performAll attempts).1.drop 2, (empty.performAll attempts).2) ∧
      recorded 1 ((empty.performAll attempts).1.flatMap (·.events)) =
        [.unknownVariableType "year" "integer"] ∧
      (empty.performAll attempts).1.getLast? = some (.ok (.names ["variables_rule"])) ∧
      Assoc.get? (empty.performAll attempts).2.hooks "variables_renderer" = some Token.content := by
  have kept_commands : (empty.keptSteps attempts).map (·.1) = attempts.drop 2 := rfl
  have kept_outcomes :
      (empty.keptSteps attempts).map (·.2) = (empty.performAll attempts).1.drop 2 := rfl
  obtain ⟨same, _, each⟩ := failed_registrations_leave_no_trace empty attempts
  rw [kept_commands, kept_outcomes] at same
  have third := (each empty (.installContext (some (founding .warn)) (.recorder 1))
    ⟨"variables_rule", some (founding .warn), .recorder 1, true⟩ rfl).2.2 _ _ rfl
  exact ⟨rfl, same, by decide, rfl, third.2.2.1 rfl⟩

end PlainHost
end Inline
end InlineVariables
