import InlineVariables.Proofs.Inline.Severity

/-!
A rendering depends on a lexicon only through the keys that the text names: `namedKeys` lists what
stands before the first bar in each reference. Two contexts whose lexicons agree on these keys show
the same and report the same (`render_by_named_keys`). No key with a bar or a closing sign is ever
named.
-/

namespace InlineVariables

theorem Text.mem_of_mem_pieces_first {c d : Char} {text : List Char} (member : d ∈ (pieces c text).1) :
    d ∈ text := by
  induction text with
  | nil => exact member
  | cons e rest ih =>
    by_cases cut : e = c
    · simp [pieces, cut] at member
    · simp only [pieces, cut, if_false, List.mem_cons] at member ⊢
      exact member.imp_right ih

/-! ### Runs that differ in where their warnings go -/

/-- The event as it is reported to another target. -/
def Event.sentTo (target : Diagnostics) : Event → Event
  | .warning _ e => .warning target e
  | event => event

/-- Two runs that yield the same and report the same, where the warnings of the second go to a target. -/
structure Run.Alike {ε α : Type} (target : Diagnostics) (a b : Run ε α) : Prop where
  result : b.result = a.result
  events : b.events = a.events.map (Event.sentTo target)

namespace Run.Alike

variable {ε α β : Type} {target : Diagnostics}

theorem andThen {r s : Run ε α} {next other : α → Run ε β} (first : Alike target r s)
    (later : ∀ a, Alike target (next a) (other a)) :
    Alike target (r.andThen next) (s.andThen other) := by
  obtain ⟨result, events⟩ := first
  cases outcome : r.result with
  | error e =>
    rw [andThen_of_error _ outcome, andThen_of_error _ (result.trans outcome)]
    exact ⟨rfl, events⟩
  | ok a =>
    rw [andThen_of_ok _ outcome, andThen_of_ok _ (result.trans outcome)]
    refine ⟨(later a).result, ?_⟩
    rw [List.map_append, events, (later a).events]

theorem mapError {δ : Type} {r s : Run ε α} (alike : Alike target r s) (f : ε → δ) :
    Alike target (r.mapError f) (s.mapError f) :=
  ⟨congrArg (Except.mapError f) alike.result, alike.events⟩

end Run.Alike

/-- Two contexts with the same settings. Where their warnings go may differ, and so may their lexicons. -/
structure Context.SameSettings (ctx other : Context) : Prop where
  severity : ctx.policy.severity = other.policy.severity
  ignoreMissing : ctx.policy.ignoreMissing = other.policy.ignoreMissing
  className : ctx.className = other.className

namespace Context.SameSettings

variable {ctx other : Context}

theorem raise_alike (same : ctx.SameSettings other) (e : ReferenceError) :
    Run.Alike other.policy.diagnostics (ctx.policy.raise e) (other.policy.raise e) := by
  have ignores : ctx.policy.ignores e = other.policy.ignores e := by
    unfold Policy.ignores
    rw [same.ignoreMissing]
  cases ignored : other.policy.ignores e with
  | true =>
    rw [Policy.raise_of_ignores (ignores.trans ignored), Policy.raise_of_ignores ignored]
    exact ⟨rfl, rfl⟩
  | false =>
    rw [Policy.raise_of_not_ignores (ignores.trans ignored), Policy.raise_of_not_ignores ignored,
      same.severity]
    cases other.policy.severity with
    | error => exact ⟨rfl, rfl⟩
    | silent => exact ⟨rfl, rfl⟩
    | warn => exact ⟨rfl, rfl⟩

theorem raiseAll_alike (same : ctx.SameSettings other) (errors : List ReferenceError) :
    Run.Alike other.policy.diagnostics (ctx.policy.raiseAll errors)
      (other.policy.raiseAll errors) := by
  induction errors with
  | nil => exact ⟨rfl, rfl⟩
  | cons e rest ih =>
    rw [Policy.raiseAll_cons, Policy.raiseAll_cons]
    exact (same.raise_alike e).andThen fun _ => ih

end Context.SameSettings

namespace Inline

/-! ### The keys that a text names -/

def Segment.key? : Segment → Option String
  | reference body => some (Reference.ofBody (String.ofList body)).key
  | _ => none

/-- What stands before the first bar in the references of a text, from the left. References that are
never closed name nothing. -/
def namedKeys (text : List Char) : List String :=
  (segments text).filterMap Segment.key?

theorem closing_not_mem_body {text body : List Char} (member : .reference body ∈ segments text) :
    closing ∉ body := by
  induction text using segments.induct with
  | case1 text plain =>
    rw [segments_of_plain plain] at member
    simp at member
  | case2 text before inner opens unclosed =>
    rw [segments_of_unclosed opens unclosed] at member
    simp at member
  | case3 text before inner opens first after closes this ih =>
    rw [segments_of_closed opens closes] at member
    simp only [List.mem_cons, reduceCtorEq, false_or, Segment.reference.injEq] at member
    rcases member with rfl | later
    · exact (Text.cutAt?_eq_some closes).2
    · exact ih later

theorem not_mem_named_key {text : List Char} {key : String} (named : key ∈ namedKeys text) :
    Reference.separator ∉ key.toList ∧ closing ∉ key.toList := by
  obtain ⟨segment, member, same⟩ := List.mem_filterMap.1 named
  cases segment with
  | reference body =>
    obtain rfl := Option.some.inj same
    have free := closing_not_mem_body member
    unfold Reference.ofBody
    simp only [String.toList_ofList]
    exact ⟨(Text.not_mem_pieces _ _).1, fun inside => free (Text.mem_of_mem_pieces_first inside)⟩
  | text content => cases same
  | unclosed inner => cases same

/-! ### Lexicons that agree on the keys named -/

section

variable {ctx other : Context}

theorem Segment.problems_congr {segment : Segment}
    (agree : ∀ key, segment.key? = some key → ctx.lexicon.get? key = other.lexicon.get? key) :
    segment.problems ctx = segment.problems other := by
  cases segment with
  | reference body =>
    have found := agree _ rfl
    simp only [Segment.problems, Context.problems, found]
  | text content => rfl
  | unclosed inner => rfl

theorem Segment.node_congr {segment : Segment} (className : ctx.className = other.className)
    (agree : ∀ key, segment.key? = some key → ctx.lexicon.get? key = other.lexicon.get? key) :
    segment.node ctx = segment.node other := by
  cases segment with
  | reference body =>
    have found := agree _ rfl
    simp only [Segment.node, Context.replacement, Context.wrap, found, className]
  | text content => rfl
  | unclosed inner => rfl

/-- The same problems and the same values, raised by each of the two policies. -/
theorem exists_raising_of_agree (className : ctx.className = other.className)
    (filled : ctx.lexicon.isEmpty = false) (otherFilled : other.lexicon.isEmpty = false)
    {source : String}
    (agree : ∀ key ∈ namedKeys source.toList, ctx.lexicon.get? key = other.lexicon.get? key)
    (name : String) (hooks : Assoc RenderHook) :
    ∃ problems output tokens, ∀ shown : Context, shown = ctx ∨ shown = other →
      let host := PlainHost.mk [(name, variableRule shown)] hooks
      let reports := unclosedReports 0 (segments source.toList)
      host.render source = raising shown.policy problems output reports ∧
        host.tokenize source = raising shown.policy problems tokens reports := by
  let segs := segments source.toList
  have each : ∀ segment ∈ segs, ∀ key, segment.key? = some key →
      ctx.lexicon.get? key = other.lexicon.get? key := by
    intro segment member key named
    exact agree key (List.mem_filterMap.2 ⟨segment, member, named⟩)
  have problems : segs.map (Segment.problems ctx) = segs.map (Segment.problems other) := by
    apply List.map_congr_left
    intro segment member
    exact Segment.problems_congr (each segment member)
  have nodes : segs.map (Segment.node ctx) = segs.map (Segment.node other) := by
    apply List.map_congr_left
    intro segment member
    exact Segment.node_congr className (each segment member)
  refine ⟨segs.flatMap (Segment.problems ctx),
    (PlainHost.mk [] hooks).nodesText (segs.map (Segment.node ctx)),
    (segs.map (Segment.node ctx)).filterMap Node.token?, ?_⟩
  intro shown either host reports
  rcases either with rfl | rfl
  · exact PlainHost.render_raising rfl filled source
  · rw [List.flatMap_def, problems, nodes, ← List.flatMap_def]
    exact PlainHost.render_raising rfl otherFilled source

theorem unclosedReports_sentTo (target : Diagnostics) (offset : Nat) (segs : List Segment) :
    (unclosedReports offset segs).map (Event.sentTo target) = unclosedReports offset segs := by
  induction segs generalizing offset with
  | nil => rfl
  | cons segment rest ih =>
    cases segment with
    | text content => exact ih _
    | reference body => exact ih _
    | unclosed inner =>
      rw [unclosedReports, List.map_cons, ih]
      rfl

theorem raising_alike {α : Type} (same : ctx.SameSettings other) (problems : List ReferenceError)
    (value : α) (offset : Nat) (segs : List Segment) :
    Run.Alike other.policy.diagnostics
      (raising ctx.policy problems value (unclosedReports offset segs))
      (raising other.policy problems value (unclosedReports offset segs)) := by
  have raised := (same.raiseAll_alike problems).mapError ScanError.reference
  apply raised.andThen
  intro _
  exact ⟨rfl, (unclosedReports_sentTo _ offset segs).symm⟩

end

end Inline

/-- The lexicon without the entry of a key. -/
def Lexicon.without (lexicon : Lexicon) (key : String) : Lexicon :=
  ⟨Assoc.erase lexicon.entries key⟩

namespace Inline

/-- Two contexts with the same settings, whose lexicons are not empty and agree on the keys that a text
names, yield the same for it and report the same, each to its own target. So an entry whose key has a bar
or a closing sign never counts, as long as there is another. -/
theorem render_by_named_keys (name : String) (hooks : Assoc RenderHook) (source : String) :
    let host (ctx : Context) := PlainHost.mk [(name, variableRule ctx)] hooks
    (∀ ctx other : Context, ctx.SameSettings other →
      ctx.lexicon.isEmpty = false → other.lexicon.isEmpty = false →
      (∀ key ∈ namedKeys source.toList, ctx.lexicon.get? key = other.lexicon.get? key) →
        let target := other.policy.diagnostics
        Run.Alike target ((host ctx).render source) ((host other).render source) ∧
        Run.Alike target ((host ctx).tokenize source) ((host other).tokenize source)) ∧
    ∀ (ctx : Context) (key : String), Reference.separator ∈ key.toList ∨ closing ∈ key.toList →
      let other := { ctx with lexicon := ctx.lexicon.without key }
      ctx.lexicon.isEmpty = false → other.lexicon.isEmpty = false →
        (host ctx).render source = (host other).render source ∧
        (host ctx).tokenize source = (host other).tokenize source := by
  intro host
  constructor
  · intro ctx other same filled otherFilled agree
    obtain ⟨problems, output, tokens, runs⟩ :=
      exists_raising_of_agree same.className filled otherFilled agree name hooks
    obtain ⟨render, tokenize⟩ := runs ctx (.inl rfl)
    obtain ⟨otherRender, otherTokenize⟩ := runs other (.inr rfl)
    rw [render, tokenize, otherRender, otherTokenize]
    exact ⟨raising_alike same problems output 0 _, raising_alike same problems tokens 0 _⟩
  · intro ctx key unnamable other filled otherFilled
    have agree : ∀ named ∈ namedKeys source.toList,
        ctx.lexicon.get? named = other.lexicon.get? named := by
      intro named member
      obtain ⟨noBar, noClosing⟩ := not_mem_named_key member
      have different : key ≠ named := by
        rintro rfl
        exact unnamable.elim noBar noClosing
      exact (Assoc.get?_erase_other ctx.lexicon.entries different).symm
    obtain ⟨problems, output, tokens, runs⟩ :=
      @exists_raising_of_agree ctx other rfl filled otherFilled source agree name hooks
    obtain ⟨render, tokenize⟩ := runs ctx (.inl rfl)
    obtain ⟨otherRender, otherTokenize⟩ := runs other (.inr rfl)
    exact ⟨render.trans otherRender.symm, tokenize.trans otherTokenize.symm⟩

/-- One context knows a variable more, and one whose key has a bar; the text names neither. -/
theorem render_by_named_keys_greeting :
    let other : Context :=
      ⟨⟨[("greeting|abbr", .simple "hi"), ("greeting", .simple "hello"), ("name", .simple "you")]⟩,
        ⟨.warn, false, .recorder 1⟩, none⟩
    let host (ctx : Context) := PlainHost.mk [(variableRuleName, variableRule ctx)] []
    let source := "#\x7bgreeting|abbr\x7d #\x7babsent\x7d #\x7bname"
    greetingContext.SameSettings other ∧ greetingContext.lexicon.isEmpty = false ∧
      other.lexicon.isEmpty = false ∧
      (∀ key ∈ namedKeys source.toList, greetingContext.lexicon.get? key = other.lexicon.get? key) ∧
      Run.Alike (.recorder 1) ((host greetingContext).render source) ((host other).render source) ∧
      (other.lexicon.without "greeting|abbr").isEmpty = false ∧
      (host other).render source =
        (host { other with lexicon := other.lexicon.without "greeting|abbr" }).render source := by
  intro other host source
  have same : greetingContext.SameSettings other := ⟨rfl, rfl, rfl⟩
  have named : namedKeys source.toList = ["greeting", "absent"] := by
    have first : Text.cutOn? opening source.toList =
        some ([], "greeting|abbr\x7d #\x7babsent\x7d #\x7bname".toList) := by decide
    have firstEnd : Text.cutAt? closing "greeting|abbr\x7d #\x7babsent\x7d #\x7bname".toList =
        some ("greeting|abbr".toList, " #\x7babsent\x7d #\x7bname".toList) := by decide
    have second : Text.cutOn? opening " #\x7babsent\x7d #\x7bname".toList =
        some ([' '], "absent\x7d #\x7bname".toList) := by decide
    have secondEnd : Text.cutAt? closing "absent\x7d #\x7bname".toList =
        some ("absent".toList, " #\x7bname".toList) := by decide
    have last : Text.cutOn? opening " #\x7bname".toList = some ([' '], "name".toList) := by decide
    have unclosed : Text.cutAt? closing "name".toList = none := by decide
    rw [namedKeys, segments_of_closed first firstEnd, segments_of_closed second secondEnd,
      segments_of_unclosed last unclosed]
    decide
  have agree : ∀ key ∈ namedKeys source.toList,
      greetingContext.lexicon.get? key = other.lexicon.get? key := by
    rw [named]
    decide
  have bar : Reference.separator ∈ "greeting|abbr".toList := by decide
  obtain ⟨alike, ignored⟩ := render_by_named_keys variableRuleName [] source
  have rendered := (alike greetingContext other same rfl rfl agree).1
  have without := (ignored other "greeting|abbr" (.inl bar) rfl rfl).1
  exact ⟨same, rfl, rfl, agree, rendered, rfl, without⟩

end Inline

end InlineVariables
