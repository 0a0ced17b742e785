import InlineVariables.Proofs.Inline.Expansion
import InlineVariables.Proofs.Resolution

/-!
What the severity of a context decides in a whole rendering. The problems of a text are the same under
every severity, and so is what is shown when none of them is fatal; the policy only says which problems
are reported, and at which one the rendering ends.
-/

namespace InlineVariables

/-- A context with another severity and a recorder for its warnings. -/
def Context.withSeverity (ctx : Context) (severity : Severity) (id : Nat) : Context :=
  { ctx with policy := ⟨severity, ctx.policy.ignoreMissing, .recorder id⟩ }

theorem Policy.filter_ignores (policy : Policy) (errors : List ReferenceError) :
    errors.filter policy.ignores =
      if policy.ignoreMissing then errors.filter ReferenceError.isMissing else [] := by
  unfold ignores
  cases policy.ignoreMissing with
  | true => rfl
  | false => simp

namespace Inline

/-- The problems of a segment. -/
def Segment.problems (ctx : Context) : Segment → List ReferenceError
  | reference body => ctx.problems (.ofBody (String.ofList body))
  | _ => []

/-- What stands in the place of a segment when no problem is fatal. -/
def Segment.node (ctx : Context) : Segment → Node
  | text content => .text (String.ofList content)
  | reference body =>
    .token ⟨variableKind, (ctx.replacement (.ofBody (String.ofList body))).getD
      (String.ofList (reference body).source)⟩
  | unclosed inner => .token ⟨variableKind, String.ofList (unclosed inner).source⟩

/-- The reports of references that are never closed, for segments that begin at an offset. -/
def unclosedReports : Nat → List Segment → List Event
  | _, [] => []
  | offset, .unclosed inner :: rest =>
    .unterminatedReference offset ::
      unclosedReports (offset + Text.byteLength (Segment.unclosed inner).source) rest
  | offset, segment :: rest =>
    unclosedReports (offset + Text.byteLength segment.source) rest

theorem recorded_unclosedReports (id offset : Nat) (segs : List Segment) :
    recorded id (unclosedReports offset segs) = [] := by
  induction segs generalizing offset with
  | nil => rfl
  | cons segment rest ih =>
    cases segment with
    | text content => exact ih _
    | reference body => exact ih _
    | unclosed inner => exact ih _

theorem Segment.expand_reference (ctx : Context) (offset : Nat) (body : List Char) :
    (Segment.reference body).expand ctx offset =
      (ctx.policy.raiseAll ((Segment.reference body).problems ctx)).andThen
        fun _ => .ok ((Segment.reference body).node ctx) := by
  change (ctx.resolve (String.ofList body)).andThen _ = _
  rw [Context.resolve_eq, Run.andThen_assoc]
  rfl

/-- An expansion raises the problems of all segments in order. An opening that is never closed is
reported last, as nothing comes after it. -/
theorem expand_segments (ctx : Context) (offset : Nat) (text : List Char) :
    expand ctx offset (segments text) =
      (ctx.policy.raiseAll ((segments text).flatMap (Segment.problems ctx))).andThen fun _ =>
        ⟨.ok ((segments text).map (Segment.node ctx)), unclosedReports offset (segments text)⟩ := by
  induction text using segments.induct generalizing offset with
  | case1 text plain =>
    rw [segments_of_plain plain]
    rfl
  | case2 text before inner opens unclosed =>
    rw [segments_of_unclosed opens unclosed]
    rfl
  | case3 text before inner opens body after closes this ih =>
    have plain : (Segment.text before).problems ctx = [] := rfl
    rw [segments_of_closed opens closes, List.flatMap_cons, List.flatMap_cons, plain,
      List.nil_append, Policy.raiseAll_append, expand_cons, expand_cons, Segment.expand_reference,
      ih]
    simp only [Run.andThen_assoc, Segment.expand, Run.andThen_ok, Run.mk_andThen_ok]
    rfl

/-! ### Problems first, then the value -/

/-- Raises problems, and then yields a value with some reports. -/
def raising {α : Type} (policy : Policy) (problems : List ReferenceError) (value : α)
    (reports : List Event) : Run ScanError α :=
  ((policy.raiseAll problems).mapError .reference).andThen fun _ => ⟨.ok value, reports⟩

section

variable {α : Type} {policy : Policy} {problems : List ReferenceError} {events : List Event}

theorem raising_of_ok (raised : policy.raiseAll problems = ⟨.ok (), events⟩) (value : α)
    (reports : List Event) :
    raising policy problems value reports = ⟨.ok value, events ++ reports⟩ := by
  rw [raising, raised]
  rfl

theorem raising_of_error {e : ReferenceError}
    (raised : policy.raiseAll problems = ⟨.error e, events⟩) (value : α) (reports : List Event) :
    raising policy problems value reports = ⟨.error (.reference e), events⟩ := by
  rw [raising, raised]
  rfl

theorem finish_raising {β : Type} (f : List Node → β) (nodes : List Node) (reports : List Event) :
    finish f ((policy.raiseAll problems).andThen fun _ => ⟨.ok nodes, reports⟩) =
      raising policy problems (f nodes) reports := by
  rw [finish, Run.mapError_andThen, Run.bind_eq, Run.andThen_assoc]
  refine congrArg _ ?_
  funext _
  exact Run.mk_andThen_ok nodes reports f

end

/-- With a lexicon that is not empty, the problems of all segments are raised before their nodes are
shown. -/
theorem PlainHost.render_raising {host : PlainHost} {ctx : Context} {name : String}
    (only : host.rules = [(name, variableRule ctx)]) (filled : ctx.lexicon.isEmpty = false)
    (source : String) :
    let segs := segments source.toList
    let problems := segs.flatMap (Segment.problems ctx)
    let nodes := segs.map (Segment.node ctx)
    host.render source =
        raising ctx.policy problems (host.nodesText nodes) (unclosedReports 0 segs) ∧
      host.tokenize source =
        raising ctx.policy problems (nodes.filterMap Node.token?) (unclosedReports 0 segs) := by
  have rendered := render_eq only filled source
  have tokenized := tokenize_eq only filled source
  rw [expand_segments, finish_raising] at rendered tokenized
  exact ⟨rendered, tokenized⟩

/-- The problems of a text, what is shown for it and the other reports are the same under every
severity. -/
theorem exists_raising (ctx : Context) (hooks : Assoc RenderHook) (source : String) :
    ∃ problems output tokens reports, (∀ id, recorded id reports = []) ∧
      ∀ severity id,
        let installed := ctx.withSeverity severity id
        let host := (PlainHost.mk [] hooks).installContext installed
        host.render source = raising installed.policy problems output reports ∧
          host.tokenize source = raising installed.policy problems tokens reports := by
  cases empty : ctx.lexicon.isEmpty with
  | true =>
    refine ⟨[], source, [], [], fun _ => rfl, ?_⟩
    intro severity id installed host
    have nothing : installed.lexicon.isEmpty = true := empty
    refine scan_of_declined ?_ source
    intro entry member s
    obtain rfl := List.mem_singleton.1 member
    exact variableRule_of_empty nothing s false
  | false =>
    let host := (PlainHost.mk [] hooks).installContext ctx
    let nodes := (segments source.toList).map (Segment.node ctx)
    refine ⟨(segments source.toList).flatMap (Segment.problems ctx), host.nodesText nodes,
      nodes.filterMap Node.token?, unclosedReports 0 (segments source.toList),
      fun id => recorded_unclosedReports id 0 _, ?_⟩
    intro severity id installed host
    have only : host.rules = [(variableRuleName, variableRule installed)] := rfl
    exact PlainHost.render_raising only empty source

/-- Three contexts that differ only in severity, each with its own recorder, show the same of a text.
A problem that `warn` reports is dropped by `silent` and fatal under `error`, unless it is a missing
variable that may be missing: that is reported by all three. -/
theorem severity_decides_reports (ctx : Context) (hooks : Assoc RenderHook) (source : String)
    (warnId silentId errorId : Nat) :
    let host (severity : Severity) (id : Nat) :=
      (PlainHost.mk [] hooks).installContext (ctx.withSeverity severity id)
    let warnings := recorded warnId ((host .warn warnId).render source).events
    let ignorable (e : ReferenceError) := ctx.policy.ignoreMissing && e.isMissing
    ∃ output tokens,
      ((host .warn warnId).render source).result = .ok output ∧
      ((host .warn warnId).tokenize source).result = .ok tokens ∧
      ((host .silent silentId).render source).result = .ok output ∧
      ((host .silent silentId).tokenize source).result = .ok tokens ∧
      recorded silentId ((host .silent silentId).render source).events =
        (if ctx.policy.ignoreMissing then warnings.filter ReferenceError.isMissing else []) ∧
      match warnings.find? fun e => !ignorable e with
      | none =>
        ((host .error errorId).render source).result = .ok output ∧
        ((host .error errorId).tokenize source).result = .ok tokens ∧
        recorded errorId ((host .error errorId).render source).events = warnings
      | some e =>
        ((host .error errorId).render source).result = .error (.reference e) ∧
        ((host .error errorId).tokenize source).result = .error (.reference e) ∧
        recorded errorId ((host .error errorId).render source).events =
          warnings.takeWhile ignorable := by
  intro host warnings ignorable
  -- Each of the three runs is compared with the same problems, not with another run.
  obtain ⟨problems, output, tokens, reports, quiet, runs⟩ := exists_raising ctx hooks source
  have kept (severity : Severity) (id : Nat) (errors : List ReferenceError) :
      recorded id ((ctx.withSeverity severity id).policy.warnings errors ++ reports) = errors := by
    rw [recorded_append, recorded_warnings rfl, quiet, List.append_nil]
  obtain ⟨render_warn, tokenize_warn⟩ := runs .warn warnId
  obtain ⟨render_silent, tokenize_silent⟩ := runs .silent silentId
  obtain ⟨render_error, tokenize_error⟩ := runs .error errorId
  have warn := (ctx.withSeverity .warn warnId).policy.raiseAll_warn rfl problems
  have silent := (ctx.withSeverity .silent silentId).policy.raiseAll_silent rfl problems
  rw [raising_of_ok warn] at render_warn tokenize_warn
  rw [raising_of_ok silent] at render_silent tokenize_silent
  have all : warnings = problems := by
    change recorded warnId ((host .warn warnId).render source).events = problems
    rw [render_warn]
    exact kept .warn warnId problems
  refine ⟨output, tokens, ?_, ?_, ?_, ?_, ?_, ?_⟩
  · rw [render_warn]
  · rw [tokenize_warn]
  · rw [render_silent]
  · rw [tokenize_silent]
  · rw [render_silent, kept, all]
    exact Policy.filter_ignores _ problems
  · rw [all]
    cases found : problems.find? fun e => !ignorable e with
    | none =>
      have ignored : ∀ e ∈ problems, (ctx.withSeverity .error errorId).policy.ignores e = true := by
        intro e member
        have counts := List.find?_eq_none.1 found e member
        change ignorable e = true
        simpa using counts
      have raised := Policy.raiseAll_of_ignores ignored
      rw [raising_of_ok raised] at render_error tokenize_error
      refine ⟨?_, ?_, ?_⟩
      · rw [render_error]
      · rw [tokenize_error]
      · rw [render_error, kept]
    | some e =>
      obtain ⟨counts, before, after, rfl, ignored⟩ := List.find?_eq_some_iff_append.1 found
      have fatal : ignorable e = false := by simpa using counts
      have before_ignored : ∀ d ∈ before, ignorable d = true := by simpa using ignored
      have raised := (ctx.withSeverity .error errorId).policy.raiseAll_fatal rfl before_ignored fatal
        after
      rw [raising_of_error raised] at render_error tokenize_error
      refine ⟨?_, ?_, ?_⟩
      · rw [render_error]
      · rw [tokenize_error]
      · have stops : ¬ ignorable e = true := Bool.eq_false_iff.1 fatal
        rw [render_error, recorded_warnings rfl, List.takeWhile_append_of_pos before_ignored,
          List.takeWhile_cons_of_neg stops, List.append_nil]

end Inline

end InlineVariables
