import InlineVariables.Resolve
import Mathlib.Data.List.TakeWhile

/-!
Resolution apart from the policy: a lexicon alone says which problems a reference has and what is
shown for it. `resolve_eq` shows that resolving raises these problems in order and shows the rest when
none of them is fatal. `raiseAll_eq` says what a list of problems leads to; what that is for each
severity follows.
-/

namespace InlineVariables

/-- Raises problems in order, up to the first that is fatal. -/
def Policy.raiseAll (policy : Policy) : List ReferenceError → Run ReferenceError Unit
  | [] => .ok ()
  | e :: rest => do
    policy.raise e
    policy.raiseAll rest

namespace Reference

/-- A short form is asked for, and there is none. -/
def lacksAbbr (r : Reference) (record : Record) : Bool :=
  r.has .abbr && record.abbr?.isNone

/-- A link is asked for, and there is no target. -/
def lacksUrl (r : Reference) (record : Record) : Bool :=
  r.has .link && record.url?.isNone

/-- The problems of a reference to what a lexicon has for its key. -/
def problems (r : Reference) : Option Variable → List ReferenceError
  | none => [.unknownVariable r.key]
  | some (.simple _) => if r.hasModifiers then [.unexpectedModifier r.key] else []
  | some (.structured record) =>
    (if r.lacksAbbr record then [.missingAbbreviation r.key] else []) ++
      if r.lacksUrl record then [.missingUrl r.key] else []

/-- The label, or the short form when it is asked for and there is one. -/
def labelText (r : Reference) (record : Record) : String :=
  match r.has .abbr, record.abbr? with
  | true, some short => Markup.abbr record.label short
  | _, _ => record.label

/-- The content in a link, when it is asked for and there is a target. -/
def linkText (r : Reference) (record : Record) (content : String) : String :=
  match r.has .link, record.url? with
  | true, some target => Markup.link target content
  | _, _ => content

/-- What a reference shows of a variable. -/
def shown (r : Reference) : Variable → String
  | .simple text => text
  | .structured record => r.linkText record (r.labelText record)

end Reference

namespace Policy

variable {policy : Policy}

theorem raiseAll_cons (policy : Policy) (e : ReferenceError) (rest : List ReferenceError) :
    policy.raiseAll (e :: rest) = (policy.raise e).andThen fun _ => policy.raiseAll rest := rfl

theorem raiseAll_eq_forM (policy : Policy) (errors : List ReferenceError) :
    policy.raiseAll errors = errors.forM policy.raise := by
  induction errors with
  | nil => rfl
  | cons e rest ih => exact congrArg (fun later => (policy.raise e).andThen fun _ => later) ih

@[simp] theorem raiseAll_singleton (policy : Policy) (e : ReferenceError) :
    policy.raiseAll [e] = policy.raise e := by
  rw [raiseAll_cons]
  exact Run.andThen_pure _

theorem raiseAll_append (policy : Policy) (a b : List ReferenceError) :
    policy.raiseAll (a ++ b) = (policy.raiseAll a).andThen fun _ => policy.raiseAll b := by
  induction a with
  | nil => rfl
  | cons e a ih => rw [List.cons_append, raiseAll_cons, ih, raiseAll_cons, Run.andThen_assoc]

/-- A missing variable that may be missing. It is reported whatever the severity. -/
def ignores (policy : Policy) (e : ReferenceError) : Bool :=
  policy.ignoreMissing && e.isMissing

/-- The reports of problems. -/
def warnings (policy : Policy) (errors : List ReferenceError) : List Event :=
  errors.map (.warning policy.diagnostics)

theorem raise_of_ignores {e : ReferenceError} (ignored : policy.ignores e = true) :
    policy.raise e = .report (.warning policy.diagnostics e) := by
  unfold raise
  exact if_pos ignored

theorem raise_of_not_ignores {e : ReferenceError} (counts : policy.ignores e = false) :
    policy.raise e =
      match policy.severity with
      | .error => .fail e
      | .silent => .ok ()
      | .warn => .report (.warning policy.diagnostics e) := by
  unfold raise
  exact if_neg (Bool.eq_false_iff.1 counts)

/-- A problem that ends a rendering when it is raised. -/
def isFatal (policy : Policy) (e : ReferenceError) : Bool :=
  policy.severity = .error && !policy.ignores e

def isReported (policy : Policy) (e : ReferenceError) : Bool :=
  policy.severity = .warn || policy.ignores e

theorem raise_eq (policy : Policy) (e : ReferenceError) :
    policy.raise e =
      ⟨if policy.isFatal e then .error e else .ok (),
        if policy.isReported e then policy.warnings [e] else []⟩ := by
  unfold isFatal isReported
  cases ignored : policy.ignores e with
  | true =>
    rw [raise_of_ignores ignored]
    simp [Run.report, warnings]
  | false =>
    rw [raise_of_not_ignores ignored]
    cases policy.severity with
    | error => simp [Run.fail]
    | silent => simp [Run.ok]
    | warn => simp [Run.report, warnings]

/-- Raising goes up to the first fatal problem, and reports on the way what is to be reported. -/
theorem raiseAll_eq (policy : Policy) (errors : List ReferenceError) :
    policy.raiseAll errors =
      ⟨match errors.find? policy.isFatal with
        | some e => .error e
        | none => .ok (),
        policy.warnings ((errors.takeWhile (!policy.isFatal ·)).filter policy.isReported)⟩ := by
  induction errors with
  | nil => rfl
  | cons e rest ih =>
    rw [raiseAll_cons, raise_eq]
    cases fatal : policy.isFatal e with
    | true =>
      have quiet : policy.isReported e = false := by
        unfold isFatal at fatal
        unfold isReported
        grind
      rw [List.find?_cons_of_pos fatal, List.takeWhile_cons_of_neg (by simp [fatal]), quiet]
      rfl
    | false =>
      have passes : ¬ policy.isFatal e = true := Bool.eq_false_iff.1 fatal
      rw [List.find?_cons_of_neg passes, List.takeWhile_cons_of_pos (by simp [fatal]),
        List.filter_cons, Run.andThen_of_ok _ rfl, ih]
      cases policy.isReported e <;> rfl

theorem raiseAll_andThen {α : Type} (policy : Policy) (errors : List ReferenceError) (value : α) :
    ((policy.raiseAll errors).andThen fun _ => .ok value) =
      ⟨match errors.find? policy.isFatal with
        | some e => .error e
        | none => .ok value,
        policy.warnings ((errors.takeWhile (!policy.isFatal ·)).filter policy.isReported)⟩ := by
  rw [raiseAll_eq]
  cases errors.find? policy.isFatal with
  | some e => rfl
  | none => exact Run.mk_andThen_ok () _ fun _ => value

theorem raiseAll_of_passes {errors : List ReferenceError}
    (passes : ∀ e ∈ errors, policy.isFatal e = false) :
    policy.raiseAll errors = ⟨.ok (), policy.warnings (errors.filter policy.isReported)⟩ := by
  have none_fatal : errors.find? policy.isFatal = none :=
    List.find?_eq_none.2 fun e member => Bool.eq_false_iff.1 (passes e member)
  have all : errors.takeWhile (!policy.isFatal ·) = errors :=
    List.takeWhile_eq_self_iff.2 fun e member => by simp [passes e member]
  rw [raiseAll_eq, none_fatal, all]

theorem raiseAll_of_ignores {errors : List ReferenceError}
    (ignored : ∀ e ∈ errors, policy.ignores e = true) :
    policy.raiseAll errors = ⟨.ok (), policy.warnings errors⟩ := by
  have passes : ∀ e ∈ errors, policy.isFatal e = false := by
    intro e member
    simp [isFatal, ignored e member]
  have all : errors.filter policy.isReported = errors :=
    List.filter_eq_self.2 fun e member => by simp [isReported, ignored e member]
  rw [raiseAll_of_passes passes, all]

theorem raiseAll_warn (warn : policy.severity = .warn) (errors : List ReferenceError) :
    policy.raiseAll errors = ⟨.ok (), policy.warnings errors⟩ := by
  have all : errors.filter policy.isReported = errors :=
    List.filter_eq_self.2 fun e _ => by simp [isReported, warn]
  rw [raiseAll_of_passes fun e _ => by simp [isFatal, warn], all]

theorem raiseAll_silent (silent : policy.severity = .silent) (errors : List ReferenceError) :
    policy.raiseAll errors = ⟨.ok (), policy.warnings (errors.filter policy.ignores)⟩ := by
  have reported : policy.isReported = policy.ignores := by
    funext e
    simp [isReported, silent]
  rw [raiseAll_of_passes fun e _ => by simp [isFatal, silent], reported]

theorem raiseAll_events (policy : Policy) (errors : List ReferenceError) :
    ∀ event ∈ (policy.raiseAll errors).events, ∃ e, event = .warning policy.diagnostics e := by
  intro event reported
  rw [raiseAll_eq] at reported
  obtain ⟨e, _, rfl⟩ := List.mem_map.1 reported
  exact ⟨e, rfl⟩

/-- Under `error` the first problem that is not ignored is fatal. -/
theorem raiseAll_fatal (strict : policy.severity = .error) {before : List ReferenceError}
    {e : ReferenceError} (ignored : ∀ d ∈ before, policy.ignores d = true)
    (fatal : policy.ignores e = false) (after : List ReferenceError) :
    policy.raiseAll (before ++ e :: after) = ⟨.error e, policy.warnings before⟩ := by
  rw [raiseAll_append, raiseAll_of_ignores ignored, raiseAll_cons, raise_of_not_ignores fatal,
    strict, Run.andThen_fail]
  simp [Run.andThen, Run.fail]

end Policy

theorem recorded_append (id : Nat) (a b : List Event) :
    recorded id (a ++ b) = recorded id a ++ recorded id b :=
  List.filterMap_append

/-- A recorder keeps the problems that a policy reports to it. -/
theorem recorded_warnings {policy : Policy} {id : Nat} (own : policy.diagnostics = .recorder id)
    (errors : List ReferenceError) : recorded id (policy.warnings errors) = errors := by
  have same : Event.recorded? id ∘ Event.warning policy.diagnostics = some := by
    funext e
    rw [own]
    exact if_pos rfl
  rw [recorded, Policy.warnings, List.filterMap_map, same, List.filterMap_some]

namespace Context

variable (ctx : Context) (r : Reference)

theorem labelContent_eq (record : Record) :
    ctx.labelContent r record =
      (ctx.policy.raiseAll
        (if r.lacksAbbr record then [.missingAbbreviation r.key] else [])).andThen
          fun _ => .ok (r.labelText record) := by
  unfold labelContent Reference.lacksAbbr Reference.labelText
  cases r.has .abbr with
  | false => rfl
  | true =>
    cases record.abbr? with
    | none => simp
    | some short => rfl

theorem linkContent_eq (record : Record) (content : String) :
    ctx.linkContent r record content =
      (ctx.policy.raiseAll (if r.lacksUrl record then [.missingUrl r.key] else [])).andThen
        fun _ => .ok (r.linkText record content) := by
  unfold linkContent Reference.lacksUrl Reference.linkText
  cases r.has .link with
  | false => rfl
  | true =>
    cases record.url? with
    | none => simp
    | some target => rfl

theorem content_eq (found : Variable) :
    ctx.content r found =
      (ctx.policy.raiseAll (r.problems (some found))).andThen fun _ => .ok (r.shown found) := by
  cases found with
  | simple text =>
    unfold content simpleContent Reference.problems Reference.shown
    cases r.hasModifiers with
    | false => rfl
    | true => simp
  | structured record =>
    change (ctx.labelContent r record).andThen (ctx.linkContent r record) = _
    unfold Reference.problems
    rw [labelContent_eq, Run.andThen_assoc, Policy.raiseAll_append, Run.andThen_assoc]
    simp only [Run.andThen_ok, linkContent_eq]
    rfl

/-- What is shown for a reference in its place; nothing for an unknown key. -/
def replacement : Option String :=
  (ctx.lexicon.get? r.key).map fun found => ctx.wrap (r.shown found)

/-- The problems of a reference. -/
def problems : List ReferenceError :=
  r.problems (ctx.lexicon.get? r.key)

/-- Resolving raises the problems in order, and shows the replacement when none is fatal. -/
theorem resolve_eq (body : String) :
    ctx.resolve body =
      (ctx.policy.raiseAll (ctx.problems (.ofBody body))).andThen
        fun _ => .ok (ctx.replacement (.ofBody body)) := by
  unfold resolve problems replacement
  cases found : ctx.lexicon.get? (Reference.ofBody body).key with
  | none => simp [Reference.problems, found]
  | some value => simp [found, content_eq, Run.andThen_assoc]

theorem resolve_events (body : String) :
    ∀ event ∈ (ctx.resolve body).events, ∃ e, event = .warning ctx.policy.diagnostics e := by
  intro event reported
  rw [resolve_eq] at reported
  rcases Run.mem_events_andThen reported with raised | ⟨_, _, nothing⟩
  · exact ctx.policy.raiseAll_events _ event raised
  · exact absurd nothing List.not_mem_nil

end Context

end InlineVariables
