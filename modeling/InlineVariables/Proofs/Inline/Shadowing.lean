import InlineVariables.Proofs.Inline.Conservation
import InlineVariables.Proofs.Resolution

/-!
Rules for variables that never act. Such a rule has an empty lexicon, or stands behind a rule for
variables whose lexicon is not empty: where a reference opens, that one does not decline, whatever its
lexicon holds. Two scans, with and without such rules, go through the same rounds.
-/

namespace InlineVariables.Inline

/-- A rule for variables that never acts behind these rules. -/
def Inert (before : List (String × Rule)) (rule : Rule) : Prop :=
  ∃ ctx, rule = variableRule ctx ∧ (ctx.lexicon.isEmpty = true ∨
    ∃ entry ∈ before, ∃ other, entry.2 = variableRule other ∧ other.lexicon.isEmpty = false)

/-- The second list is the first without some inert rules, behind the rules `before`. -/
inductive Thinned :
    List (String × Rule) → List (String × Rule) → List (String × Rule) → Prop where
  | nil (before : List (String × Rule)) : Thinned before [] []
  | keep {before rules kept : List (String × Rule)} (entry : String × Rule)
      (rest : Thinned (before ++ [entry]) rules kept) :
      Thinned before (entry :: rules) (entry :: kept)
  | drop {before rules kept : List (String × Rule)} {entry : String × Rule}
      (inert : Inert before entry.2) (rest : Thinned (before ++ [entry]) rules kept) :
      Thinned before (entry :: rules) kept

/-- A rule never reports to a recorder. -/
def Rule.Quiet (rule : Rule) (id : Nat) : Prop :=
  ∀ s, recorded id (rule s false).events = []

section

variable {before rules kept : List (String × Rule)} {s t : State}

/-! ### Inert rules decline -/

/-- Behind a rule for variables that declines, with a lexicon that is not empty, none opens. -/
theorem not_opens_of_passed {entry : String × Rule} {ctx : Context} (passed : Passed before s)
    (member : entry ∈ before) (rule : entry.2 = variableRule ctx)
    (filled : ctx.lexicon.isEmpty = false) : ¬ s.Opens := by
  intro opens
  have declines := (passed entry member).1
  rw [rule] at declines
  rcases variableRule_of_opens filled opens with
    ⟨span, rest, token, events, here, further, accepts⟩ | ⟨e, events, failed⟩
  · rw [accepts] at declines
    cases declines
  · rw [failed] at declines
    cases declines

theorem Inert.declined {rule : Rule} (inert : Inert before rule) (passed : Passed before s) :
    rule s false = .declined s := by
  obtain ⟨ctx, rfl, empty | ⟨entry, member, other, same, filled⟩⟩ := inert
  · exact variableRule_of_empty empty s false
  · exact variableRule_of_not_opens ctx (not_opens_of_passed passed member same filled)

theorem inert_of_empty (before : List (String × Rule)) {ctx : Context}
    (empty : ctx.lexicon.isEmpty = true) : Inert before (variableRule ctx) :=
  ⟨ctx, rfl, .inl empty⟩

theorem inert_behind (before : List (String × Rule)) (name : String) {other : Context}
    (filled : other.lexicon.isEmpty = false) (ctx : Context) :
    Inert (before ++ [(name, variableRule other)]) (variableRule ctx) := by
  have member := List.mem_append_right before (List.mem_singleton_self (name, variableRule other))
  exact ⟨ctx, rfl, .inr ⟨_, member, other, rfl, filled⟩⟩

theorem Inert.append {rule : Rule} (inert : Inert before rule) (more : List (String × Rule)) :
    Inert (before ++ more) rule := by
  obtain ⟨ctx, same, empty | ⟨entry, member, shadows⟩⟩ := inert
  · exact ⟨ctx, same, .inl empty⟩
  · exact ⟨ctx, same, .inr ⟨entry, List.mem_append_left more member, shadows⟩⟩

/-! ### The same rounds without inert rules -/

/-- Rules that all decline do so without the inert ones, with the same reports. -/
theorem Thinned.split {left right : List (String × Rule)}
    (thinned : Thinned before (left ++ right) kept) (start : Passed before s)
    (passed : Passed left s) :
    ∃ left' right', kept = left' ++ right' ∧ Passed left' s ∧ reports left' s = reports left s ∧
      Thinned (before ++ left) right right' := by
  -- The rules that have declined so far stand in `before`: among them is what shadows a dropped rule.
  induction left generalizing before kept with
  | nil =>
    rw [List.append_nil]
    exact ⟨[], kept, rfl, passed, rfl, thinned⟩
  | cons entry left ih =>
    obtain ⟨head, tail⟩ := passed_cons.1 passed
    have further : Passed (before ++ [entry]) s :=
      passed_append.2 ⟨start, passed_cons.2 ⟨head, passed_nil s⟩⟩
    cases thinned with
    | keep _ rest =>
      obtain ⟨left', right', rfl, passed', same, thinned'⟩ := ih rest further tail
      refine ⟨entry :: left', right', rfl, passed_cons.2 ⟨head, passed'⟩, ?_, ?_⟩
      · rw [reports_cons, reports_cons, same]
      · rw [List.append_cons]
        exact thinned'
    | drop inert rest =>
      obtain ⟨left', right', rfl, passed', same, thinned'⟩ := ih rest further tail
      refine ⟨left', right', rfl, passed', ?_, ?_⟩
      · rw [reports_cons, inert.declined start, same]
        rfl
      · rw [List.append_cons]
        exact thinned'

theorem Thinned.decides {left after : List (String × Rule)} {name : String} {rule : Rule}
    (thinned : Thinned [] (left ++ (name, rule) :: after) kept) (passed : Passed left s)
    (decides : (rule s false).outcome ≠ .ok false) :
    ∃ left' after', kept = left' ++ (name, rule) :: after' ∧ Passed left' s ∧
      reports left' s = reports left s := by
  obtain ⟨left', right', rfl, passed', same, rest⟩ := thinned.split (passed_nil s) passed
  cases rest with
  | keep _ rest => exact ⟨left', _, rfl, passed', same⟩
  | drop inert rest =>
    have declined : rule s false = .declined s := inert.declined passed
    rw [declined] at decides
    exact absurd rfl decides

theorem Round.thinned {stretch : Stretch} {events : List Event} (thinned : Thinned [] rules kept)
    (round : Round rules s stretch events t) : Round kept s stretch events t := by
  cases round with
  | copied here passed =>
    rw [← List.append_nil rules] at thinned
    obtain ⟨left', right', rfl, passed', same, rest⟩ := thinned.split (passed_nil s) passed
    cases rest
    rw [List.append_nil, ← same]
    exact .copied here passed'
  | consumed order passed accepts here there further source pushed =>
    subst order
    obtain ⟨left', after', rfl, passed', same⟩ :=
      thinned.decides passed (by rw [accepts]; exact nofun)
    rw [← same]
    exact .consumed rfl passed' accepts here there further source pushed

theorem Rounds.thinned {stretches : List Stretch} {events : List Event}
    (thinned : Thinned [] rules kept) (rounds : Rounds rules s stretches events t) :
    Rounds kept s stretches events t := by
  induction rounds with
  | stay s => exact .stay s
  | next first others ih => exact .next (first.thinned thinned) ih

theorem Fails.thinned {e : ReferenceError} {events : List Event} (thinned : Thinned [] rules kept)
    (fails : Fails rules s e events) : Fails kept s e events := by
  obtain ⟨before, name, rule, after, rfl, passed, outcome, rfl, more⟩ := fails
  obtain ⟨left', after', rfl, passed', same⟩ :=
    thinned.decides passed (by rw [outcome]; exact nofun)
  rw [← same]
  exact ⟨left', name, rule, after', rfl, passed', outcome, rfl, more⟩

/-- A scan does the same without inert rules. -/
theorem scanFrom_thinned (honoured : Honoured rules) (thinned : Thinned [] rules kept)
    {text : List Char} (here : s.rest? = some text) : scanFrom kept s = scanFrom rules s := by
  obtain ⟨stretches, events, t, rounds, ends⟩ := exists_rounds honoured here
  rw [scanFrom_of_rounds rounds, scanFrom_of_rounds (rounds.thinned thinned)]
  rcases ends with finished | ⟨e, more, fails⟩
  · rw [scanFrom_end rules finished, scanFrom_end kept finished]
  · rw [scanFrom_fails fails, scanFrom_fails (fails.thinned thinned)]

/-! ### Removing all inert rules -/

theorem Thinned.mem (thinned : Thinned before rules kept) :
    ∀ entry ∈ kept, entry ∈ rules := by
  induction thinned with
  | nil before => exact fun _ member => member
  | keep entry rest ih =>
    intro other member
    rcases List.mem_cons.1 member with rfl | member
    · exact List.mem_cons_self
    · exact List.mem_cons_of_mem _ (ih other member)
  | drop inert rest ih => exact fun other member => List.mem_cons_of_mem _ (ih other member)

theorem Thinned.of_inert (inert : ∀ entry ∈ rules, Inert before entry.2) :
    Thinned before rules [] := by
  induction rules generalizing before with
  | nil => exact .nil before
  | cons entry rules ih =>
    obtain ⟨first, others⟩ := List.forall_mem_cons.1 inert
    exact .drop first (ih fun other member => (others other member).append [entry])

theorem Thinned.append {left left' right right' : List (String × Rule)}
    (first : Thinned before left left') (second : Thinned (before ++ left) right right') :
    Thinned before (left ++ right) (left' ++ right') := by
  induction first with
  | nil before =>
    rw [List.append_nil] at second
    exact second
  | keep entry rest ih =>
    rw [List.append_cons] at second
    exact .keep entry (ih second)
  | drop inert rest ih =>
    rw [List.append_cons] at second
    exact .drop inert (ih second)

/-- All inert rules can be removed at once. -/
theorem exists_thinned (before rules : List (String × Rule)) :
    ∃ kept, Thinned before rules kept ∧ ∀ entry ∈ kept, ∃ left right,
      rules = left ++ entry :: right ∧ ¬ Inert (before ++ left) entry.2 := by
  induction rules generalizing before with
  | nil => exact ⟨[], .nil before, fun _ member => absurd member List.not_mem_nil⟩
  | cons entry rules ih =>
    obtain ⟨kept, thinned, active⟩ := ih (before ++ [entry])
    have later : ∀ other ∈ kept, ∃ left right, entry :: rules = left ++ other :: right ∧
        ¬ Inert (before ++ left) other.2 := by
      intro other member
      obtain ⟨left, right, rfl, acts⟩ := active other member
      rw [← List.append_cons] at acts
      exact ⟨entry :: left, right, rfl, acts⟩
    by_cases inert : Inert before entry.2
    · exact ⟨kept, .drop inert thinned, later⟩
    · refine ⟨entry :: kept, .keep entry thinned, ?_⟩
      intro other member
      rcases List.mem_cons.1 member with rfl | member
      · rw [← List.append_nil before] at inert
        exact ⟨[], rules, rfl, inert⟩
      · exact later other member

/-- A scan reports only what rules report that are not inert. -/
theorem scanFrom_reported_active (honoured : Honoured rules) {text : List Char}
    (here : s.rest? = some text) {event : Event} (member : event ∈ (scanFrom rules s).events) :
    ∃ left entry right u, rules = left ++ entry :: right ∧ ¬ Inert left entry.2 ∧
      event ∈ (entry.2 u false).events := by
  obtain ⟨kept, thinned, active⟩ := exists_thinned [] rules
  have less : Honoured kept := fun entry member => honoured entry (thinned.mem entry member)
  rw [← scanFrom_thinned honoured thinned here] at member
  obtain ⟨entry, asked, u, reports⟩ := scanFrom_reported less here member
  obtain ⟨left, right, split, acts⟩ := active entry asked
  exact ⟨left, entry, right, u, split, acts, reports⟩

end

/-- A context that reports elsewhere never reaches a recorder. -/
theorem variableRule_quiet {ctx : Context} {id : Nat}
    (elsewhere : ctx.policy.diagnostics ≠ .recorder id) : (variableRule ctx).Quiet id := by
  have quiet (body : String) : recorded id (ctx.resolve body).events = [] := by
    refine List.filterMap_eq_nil_iff.2 fun event reported => ?_
    obtain ⟨e, rfl⟩ := ctx.resolve_events body event reported
    unfold Event.recorded?
    split
    · rename_i same
      refine if_neg fun own => elsewhere ?_
      rw [← own]
      exact (Event.warning.inj same).1
    · rfl
  intro s
  unfold variableRule
  split
  · rfl
  · split
    · rfl
    · split
      · rfl
      · dsimp only
        split
        · exact quiet _
        · exact quiet _

/-! ### Hosts -/

namespace PlainHost

theorem render_events (host : PlainHost) (source : String) :
    (host.render source).events = (host.scan source).events :=
  Run.andThen_ok_events _ _

theorem tokenize_events (host : PlainHost) (source : String) :
    (host.tokenize source).events = (host.scan source).events :=
  Run.andThen_ok_events _ _

theorem render_thinned {host : PlainHost} {kept : List (String × Rule)}
    (honoured : Honoured host.rules) (thinned : Thinned [] host.rules kept) (source : String) :
    (PlainHost.mk kept host.hooks).render source = host.render source ∧
      (PlainHost.mk kept host.hooks).tokenize source = host.tokenize source := by
  have same : (PlainHost.mk kept host.hooks).scan source = host.scan source :=
    scanFrom_thinned honoured thinned (start_rest? source)
  constructor
  · unfold render
    rw [same]
    rfl
  · unfold tokenize
    rw [same]

/-- The host of contexts installed one after another. -/
def ofContexts (contexts : List Context) : PlainHost :=
  contexts.foldl installContext empty

theorem foldl_installContext_rules (host : PlainHost) (contexts : List Context) :
    (contexts.foldl installContext host).rules =
      host.rules ++ contexts.map fun ctx => (variableRuleName, variableRule ctx) := by
  induction contexts generalizing host with
  | nil => exact (List.append_nil _).symm
  | cons ctx rest ih =>
    rw [List.foldl_cons, ih, List.map_cons, List.append_cons]
    rfl

/-- Installing a context again leaves the hooks as they are. -/
theorem foldl_installContext_hooks {host : PlainHost} (contexts : List Context)
    (installed : host.hooks = [(variableKind, Token.content)]) :
    (contexts.foldl installContext host).hooks = host.hooks := by
  induction contexts generalizing host with
  | nil => rfl
  | cons ctx rest ih =>
    have again : (host.installContext ctx).hooks = host.hooks := by
      change Assoc.insert host.hooks variableKind Token.content = host.hooks
      rw [installed]
      exact if_pos rfl
    rw [List.foldl_cons, ih (again.trans installed), again]

theorem ofContexts_rules (contexts : List Context) :
    (ofContexts contexts).rules = contexts.map fun ctx => (variableRuleName, variableRule ctx) :=
  foldl_installContext_rules empty contexts

theorem ofContexts_hooks {contexts : List Context} (some_context : contexts ≠ []) :
    (ofContexts contexts).hooks = [(variableKind, Token.content)] := by
  cases contexts with
  | nil => exact absurd rfl some_context
  | cons ctx rest => exact foldl_installContext_hooks rest rfl

theorem honoured_ofContexts (contexts : List Context) : Honoured (ofContexts contexts).rules := by
  rw [ofContexts_rules]
  intro entry member
  obtain ⟨ctx, _, rfl⟩ := List.mem_map.1 member
  exact variableRule_honours ctx

/-- Of the contexts of a host, the first whose lexicon is not empty decides. -/
theorem render_ofContexts (contexts : List Context) (source : String) :
    match contexts.find? fun ctx => !ctx.lexicon.isEmpty with
    | none =>
      (ofContexts contexts).render source = .ok source ∧
      (ofContexts contexts).tokenize source = .ok []
    | some first =>
      (ofContexts contexts).render source = (empty.installContext first).render source ∧
      (ofContexts contexts).tokenize source = (empty.installContext first).tokenize source := by
  cases found : contexts.find? fun ctx => !ctx.lexicon.isEmpty with
  | none =>
    refine scan_of_declined ?_ source
    rw [ofContexts_rules]
    intro entry member s
    obtain ⟨ctx, asked, rfl⟩ := List.mem_map.1 member
    have nothing : ctx.lexicon.isEmpty = true := by simpa using List.find?_eq_none.1 found ctx asked
    exact variableRule_of_empty nothing s false
  | some first =>
    obtain ⟨filled, before, after, rfl, hollow⟩ := List.find?_eq_some_iff_append.1 found
    have nothing : ∀ ctx ∈ before, ctx.lexicon.isEmpty = true := by simpa using hollow
    have some_words : first.lexicon.isEmpty = false := by simpa using filled
    have thinned : Thinned [] (ofContexts (before ++ first :: after)).rules
        [(variableRuleName, variableRule first)] := by
      rw [ofContexts_rules, List.map_append, List.map_cons]
      refine Thinned.append (.of_inert ?_) (.keep _ (.of_inert ?_))
      · intro entry member
        obtain ⟨ctx, earlier, rfl⟩ := List.mem_map.1 member
        exact inert_of_empty _ (nothing ctx earlier)
      · intro entry member
        obtain ⟨ctx, later, rfl⟩ := List.mem_map.1 member
        exact inert_behind _ variableRuleName some_words ctx
    have same := render_thinned (honoured_ofContexts _) thinned source
    rw [ofContexts_hooks (List.append_ne_nil_of_right_ne_nil before (List.cons_ne_nil first after))]
      at same
    exact ⟨same.1.symm, same.2.symm⟩

end PlainHost

/-- Rules for variables with an empty lexicon, or behind a rule for variables whose lexicon is not
empty, are never of effect among rules that honour the contract: any of them can go without a change
to the result or to the reports, and nothing is ever reported through them. Of contexts installed in a
host the first with a lexicon that is not empty decides; without such a context all text is copied. -/
theorem inert_rules_never_act {host : PlainHost} {kept : List (String × Rule)}
    (others : ∀ entry ∈ host.rules, (∀ ctx, entry.2 ≠ variableRule ctx) → entry.2.Honours)
    (thinned : Thinned [] host.rules kept) (source : String) :
    ((PlainHost.mk kept host.hooks).render source = host.render source ∧
      (PlainHost.mk kept host.hooks).tokenize source = host.tokenize source) ∧
    (∀ before entry after s, host.rules = before ++ entry :: after → Inert before entry.2 →
      Passed before s → entry.2 s false = .declined s) ∧
    (∀ event, event ∈ (host.render source).events ∨ event ∈ (host.tokenize source).events →
      ∃ before entry after s, host.rules = before ++ entry :: after ∧ ¬ Inert before entry.2 ∧
        event ∈ (entry.2 s false).events) ∧
    (∀ id, (∀ before entry after, host.rules = before ++ entry :: after →
        ¬ Inert before entry.2 → entry.2.Quiet id) →
      recorded id (host.render source).events = [] ∧
        recorded id (host.tokenize source).events = []) ∧
    ∀ contexts : List Context,
      let installed := PlainHost.ofContexts contexts
      match contexts.find? fun ctx => !ctx.lexicon.isEmpty with
      | none => installed.render source = .ok source ∧ installed.tokenize source = .ok []
      | some first =>
        installed.render source = (PlainHost.empty.installContext first).render source ∧
        installed.tokenize source = (PlainHost.empty.installContext first).tokenize source := by
  have honoured : Honoured host.rules := by
    intro entry member
    by_cases variable_rule : ∃ ctx, entry.2 = variableRule ctx
    · obtain ⟨ctx, same⟩ := variable_rule
      rw [same]
      exact variableRule_honours ctx
    · exact others entry member (not_exists.1 variable_rule)
  have active : ∀ event, event ∈ (host.scan source).events →
      ∃ before entry after s, host.rules = before ++ entry :: after ∧ ¬ Inert before entry.2 ∧
        event ∈ (entry.2 s false).events :=
    fun event => scanFrom_reported_active honoured (start_rest? source)
  have silent (id : Nat) (quiet : ∀ before entry after, host.rules = before ++ entry :: after →
      ¬ Inert before entry.2 → entry.2.Quiet id) : recorded id (host.scan source).events = [] := by
    refine List.filterMap_eq_nil_iff.2 fun event reported => ?_
    obtain ⟨before, entry, after, s, split, acts, reports⟩ := active event reported
    exact List.filterMap_eq_nil_iff.1 (quiet before entry after split acts s) event reports
  rw [host.render_events, host.tokenize_events]
  refine ⟨PlainHost.render_thinned honoured thinned source, ?_, ?_, ?_, ?_⟩
  · intro before entry after s split inert passed
    exact inert.declined passed
  · rintro event (rendered | tokenized)
    · exact active event rendered
    · exact active event tokenized
  · exact fun id quiet => ⟨silent id quiet, silent id quiet⟩
  · exact fun contexts => PlainHost.render_ofContexts contexts source

/-- A rule of another kind, which makes a token of an exclamation mark. -/
def markRule : Rule := fun s _ =>
  match s.rest? with
  | some ('!' :: _) => .accepted (s.pushFor ⟨"mark", "!"⟩ ['!']) []
  | _ => .declined s

theorem markRule_honours : markRule.Honours := by
  intro s boundary more
  unfold markRule
  split
  · rename_i rest here
    exact ⟨nofun, fun _ => State.follows_pushFor here (List.cons_ne_nil _ _) _⟩
  · exact ⟨fun _ => rfl, nofun⟩

theorem inert_rules_never_act_mark :
    let late : Context := { greetingContext with policy := ⟨.warn, false, .recorder 1⟩ }
    let kept := [("mark", markRule), (variableRuleName, variableRule greetingContext)]
    let host : PlainHost := ⟨kept ++ [("late", variableRule late)], []⟩
    let source := "#{greeting}! #{absent}"
    (∀ entry ∈ host.rules, (∀ ctx, entry.2 ≠ variableRule ctx) → entry.2.Honours) ∧
      Thinned [] host.rules kept ∧
      (PlainHost.mk kept host.hooks).render source = host.render source ∧
      recorded 1 (host.render source).events = [] := by
  intro late kept host source
  have others : ∀ entry ∈ host.rules, (∀ ctx, entry.2 ≠ variableRule ctx) → entry.2.Honours := by
    intro entry member other
    simp only [host, kept, List.cons_append, List.nil_append, List.mem_cons, List.not_mem_nil,
      or_false] at member
    rcases member with rfl | rfl | rfl
    · exact markRule_honours
    · exact absurd rfl (other greetingContext)
    · exact absurd rfl (other late)
  have shadowed : Inert kept (variableRule late) :=
    inert_behind [("mark", markRule)] variableRuleName rfl late
  have thinned : Thinned [] host.rules kept := .keep _ (.keep _ (.drop shadowed (.nil _)))
  have quiet : ∀ before entry after, host.rules = before ++ entry :: after →
      ¬ Inert before entry.2 → entry.2.Quiet 1 := by
    intro before entry after split acts
    rcases before with _ | ⟨mark, _ | ⟨early, _ | ⟨last, before⟩⟩⟩
    · obtain ⟨rfl, _⟩ := List.cons.inj split
      intro s
      change recorded 1 (markRule s false).events = []
      unfold markRule
      split <;> rfl
    · obtain ⟨_, rest⟩ := List.cons.inj split
      obtain ⟨rfl, _⟩ := List.cons.inj rest
      exact variableRule_quiet nofun
    · obtain ⟨first, rest⟩ := List.cons.inj split
      obtain ⟨second, rest⟩ := List.cons.inj rest
      obtain ⟨third, _⟩ := List.cons.inj rest
      rw [← first, ← second, ← third] at acts
      exact absurd shadowed acts
    · have shorter := congrArg List.length split
      simp [host, kept] at shorter
  have whole := inert_rules_never_act others thinned source
  exact ⟨others, thinned, whole.1.1, (whole.2.2.2.1 1 quiet).1⟩

end InlineVariables.Inline
