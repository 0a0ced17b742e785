import InlineVariables.Inline.Install
import InlineVariables.Proofs.Inline.Conservation
import InlineVariables.Proofs.Inline.Segments

/-!
Rendering by references: a host with the rule for variables alone renders a text segment by segment,
and fails with the first reference whose problem is fatal.
-/

namespace InlineVariables.Inline

/-- The text of a node, when hooks leave tokens as they are. -/
def Node.content : Node → String
  | .text content => content
  | .token t => t.content

/-- What a host yields when a scan gives the nodes of an expansion. -/
def finish {α : Type} (f : List Node → α) (expansion : Run ReferenceError (List Node)) :
    Run ScanError α := do
  let nodes ← expansion.mapError .reference
  return f nodes

theorem finish_of_ok {α : Type} (f : List Node → α) {expansion : Run ReferenceError (List Node)}
    {nodes : List Node} (yields : expansion.result = .ok nodes) :
    finish f expansion = ⟨.ok (f nodes), expansion.events⟩ := by
  obtain ⟨result, events⟩ := expansion
  cases yields
  exact Run.mk_andThen_ok nodes events f

theorem finish_of_error {α : Type} (f : List Node → α) {expansion : Run ReferenceError (List Node)}
    {e : ReferenceError} (fails : expansion.result = .error e) :
    finish f expansion = ⟨.error (.reference e), expansion.events⟩ := by
  obtain ⟨result, events⟩ := expansion
  cases fails
  rfl

theorem finish_error_iff {α : Type} (f : List Node → α) (expansion : Run ReferenceError (List Node))
    (e : ScanError) :
    (finish f expansion).result = .error e ↔
      ∃ d, e = .reference d ∧ expansion.result = .error d := by
  cases outcome : expansion.result with
  | error d =>
    rw [finish_of_error f outcome]
    constructor
    · rintro ⟨⟩
      exact ⟨d, rfl, rfl⟩
    · rintro ⟨_, rfl, ⟨⟩⟩
      rfl
  | ok nodes =>
    rw [finish_of_ok f outcome]
    exact ⟨nofun, nofun⟩

/-- What is read off the state of a scan is read off the nodes of the expansion. -/
theorem Agrees.finish {α : Type} {s : State} {scan : Run ScanError State}
    {expansion : Run ReferenceError (List Node)} (agrees : Agrees s scan expansion)
    {read : State → α} {f : List Node → α}
    (same : ∀ nodes t, s.Adds nodes t → read t = f nodes) :
    (scan.andThen fun t => .ok (read t)) = finish f expansion := by
  obtain ⟨events, error, ok⟩ := agrees
  cases outcome : expansion.result with
  | error e =>
    rw [finish_of_error f outcome, Run.andThen_of_error _ (error e outcome), events]
  | ok nodes =>
    obtain ⟨t, finished, adds⟩ := ok nodes outcome
    rw [finish_of_ok f outcome, ← same nodes t adds, ← events]
    obtain ⟨result, reports⟩ := scan
    cases finished
    exact Run.mk_andThen_ok t reports read

namespace PlainHost

variable {host : PlainHost} {ctx : Context} {name : String}

theorem scan_agrees (only : host.rules = [(name, variableRule ctx)])
    (filled : ctx.lexicon.isEmpty = false) (source : String) :
    Agrees (.start source) (host.scan source) (expand ctx 0 (segments source.toList)) := by
  unfold scan
  rw [only]
  exact scanFrom_segments filled name rfl

theorem render_eq (only : host.rules = [(name, variableRule ctx)])
    (filled : ctx.lexicon.isEmpty = false) (source : String) :
    host.render source = finish host.nodesText (expand ctx 0 (segments source.toList)) := by
  refine (scan_agrees only filled source).finish ?_
  rintro nodes t ⟨text, _⟩
  rw [text host]
  simp [State.start, State.nodes]

theorem tokenize_eq (only : host.rules = [(name, variableRule ctx)])
    (filled : ctx.lexicon.isEmpty = false) (source : String) :
    host.tokenize source =
      finish (List.filterMap Node.token?) (expand ctx 0 (segments source.toList)) := by
  refine (scan_agrees only filled source).finish ?_
  rintro nodes t ⟨_, tokens⟩
  exact tokens

end PlainHost

/-! ### Tokens and fatal problems of an expansion -/

section

variable {ctx : Context} {offset : Nat}

theorem expand_cons_ok_iff {segment : Segment} {rest : List Segment} {nodes : List Node} :
    (expand ctx offset (segment :: rest)).result = .ok nodes ↔
      ∃ node more, (segment.expand ctx offset).result = .ok node ∧
        (expand ctx (offset + Text.byteLength segment.source) rest).result = .ok more ∧
        node :: more = nodes := by
  simp only [expand_cons, Run.andThen_result_ok_iff, Run.ok, Except.ok.injEq]
  grind

theorem expand_cons_error_iff {segment : Segment} {rest : List Segment} {e : ReferenceError} :
    (expand ctx offset (segment :: rest)).result = .error e ↔
      (segment.expand ctx offset).result = .error e ∨
        ∃ node, (segment.expand ctx offset).result = .ok node ∧
          (expand ctx (offset + Text.byteLength segment.source) rest).result = .error e := by
  simp [expand_cons, Run.andThen_result_error_iff, Run.ok]

theorem Segment.expand_error_iff {segment : Segment} {e : ReferenceError} :
    (segment.expand ctx offset).result = .error e ↔
      ∃ body, segment = .reference body ∧ (ctx.resolve (String.ofList body)).result = .error e := by
  cases segment with
  | text content => simp [Segment.expand, Run.ok]
  | reference body => simp [Segment.expand, Run.andThen_result_error_iff, Run.ok]
  | unclosed inner => simp [Segment.expand, Run.andThen_result_error_iff, Run.ok]

theorem Segment.expand_kind {segment : Segment} {t : Token}
    (yields : (segment.expand ctx offset).result = .ok (.token t)) : t.kind = variableKind := by
  cases segment with
  | text content => cases yields
  | reference body =>
    obtain ⟨replacement, _, same⟩ := Run.andThen_result_ok_iff.1 yields
    cases same
    rfl
  | unclosed inner =>
    cases yields
    rfl

theorem expand_kind {segs : List Segment} {nodes : List Node}
    (yields : (expand ctx offset segs).result = .ok nodes) :
    ∀ t, .token t ∈ nodes → t.kind = variableKind := by
  induction segs generalizing offset nodes with
  | nil =>
    cases yields
    exact nofun
  | cons segment rest ih =>
    obtain ⟨node, more, first, others, rfl⟩ := expand_cons_ok_iff.1 yields
    intro t member
    rcases List.mem_cons.1 member with rfl | member
    · exact Segment.expand_kind first
    · exact ih others t member

theorem Segment.exists_expand_iff {segment : Segment} :
    (∃ node, (segment.expand ctx offset).result = .ok node) ↔
      ∀ body, segment = .reference body →
        ∃ replacement, (ctx.resolve (String.ofList body)).result = .ok replacement := by
  cases segment with
  | text content => simp [Segment.expand, Run.ok]
  | reference body =>
    constructor
    · rintro ⟨node, yields⟩ inner ⟨⟩
      obtain ⟨replacement, resolved, _⟩ := Run.andThen_result_ok_iff.1 yields
      exact ⟨replacement, resolved⟩
    · intro fine
      obtain ⟨replacement, resolved⟩ := fine body rfl
      exact ⟨_, Run.andThen_result_ok_iff.2 ⟨replacement, resolved, rfl⟩⟩
  | unclosed inner => simp [Segment.expand, Run.andThen_result_ok_iff, Run.ok]

/-- The first reference whose problem is fatal decides. -/
theorem expand_error_iff {segs : List Segment} {e : ReferenceError} :
    (expand ctx offset segs).result = .error e ↔
      ∃ before body after, segs = before ++ .reference body :: after ∧
        (∀ earlier, .reference earlier ∈ before →
          ∃ replacement, (ctx.resolve (String.ofList earlier)).result = .ok replacement) ∧
        (ctx.resolve (String.ofList body)).result = .error e := by
  induction segs generalizing offset with
  | nil => simp [expand, Run.ok]
  | cons segment rest ih =>
    rw [expand_cons_error_iff]
    constructor
    · rintro (raised | ⟨node, fine, later⟩)
      · obtain ⟨body, rfl, fatal⟩ := Segment.expand_error_iff.1 raised
        exact ⟨[], body, rest, rfl, fun _ member => absurd member List.not_mem_nil, fatal⟩
      · obtain ⟨before, body, after, rfl, earlier, fatal⟩ := ih.1 later
        refine ⟨segment :: before, body, after, rfl, ?_, fatal⟩
        intro first member
        rcases List.mem_cons.1 member with same | member
        · exact Segment.exists_expand_iff.1 ⟨node, fine⟩ first same.symm
        · exact earlier first member
    · rintro ⟨before, body, after, split, earlier, fatal⟩
      cases before with
      | nil =>
        obtain ⟨rfl, rfl⟩ := List.cons.inj split
        exact .inl (Segment.expand_error_iff.2 ⟨body, rfl, fatal⟩)
      | cons first before =>
        obtain ⟨rfl, rfl⟩ := List.cons.inj split
        obtain ⟨node, fine⟩ := Segment.exists_expand_iff.2 fun inner same =>
          earlier inner (same ▸ List.mem_cons_self)
        refine .inr ⟨node, fine, ih.2 ⟨before, body, after, rfl, ?_, fatal⟩⟩
        exact fun inner member => earlier inner (List.mem_cons_of_mem _ member)

end

theorem nodesText_of_kind {host : PlainHost} {nodes : List Node}
    (plain : ∀ hook, Assoc.get? host.hooks variableKind = some hook → ∀ t, hook t = t.content)
    (kind : ∀ t, .token t ∈ nodes → t.kind = variableKind) :
    host.nodesText nodes = String.join (nodes.map Node.content) := by
  have same : ∀ node ∈ nodes, host.nodeText node = node.content := by
    intro node member
    cases node with
    | text content => rfl
    | token t =>
      change host.tokenText t = t.content
      unfold PlainHost.tokenText
      rw [kind t member]
      cases found : Assoc.get? host.hooks variableKind with
      | none => rfl
      | some hook => exact plain hook found t
  unfold PlainHost.nodesText
  rw [List.map_congr_left same]

/-- Rendering and scanning for tokens, with the rule for variables alone and a hook that leaves tokens
as they are, expand the segments of the text, with all reports on the way. They fail just when a
reference resolves to a fatal problem, with that of the leftmost such reference. -/
theorem render_by_references {host : PlainHost} {ctx : Context} {name : String}
    (only : host.rules = [(name, variableRule ctx)]) (filled : ctx.lexicon.isEmpty = false)
    (plain : ∀ hook, Assoc.get? host.hooks variableKind = some hook → ∀ t, hook t = t.content)
    (source : String) :
    (segments source.toList).flatMap Segment.source = source.toList ∧
    host.render source = finish (fun nodes => String.join (nodes.map Node.content))
      (expand ctx 0 (segments source.toList)) ∧
    host.tokenize source = finish (List.filterMap Node.token?)
      (expand ctx 0 (segments source.toList)) ∧
    ∀ e, ((host.render source).result = .error e ↔ (host.tokenize source).result = .error e) ∧
      ((host.render source).result = .error e ↔
        ∃ before body after fatal, segments source.toList = before ++ .reference body :: after ∧
          (∀ earlier, .reference earlier ∈ before →
            ∃ replacement, (ctx.resolve (String.ofList earlier)).result = .ok replacement) ∧
          (ctx.resolve (String.ofList body)).result = .error fatal ∧ e = .reference fatal) := by
  have rendered := PlainHost.render_eq only filled source
  have tokenized := PlainHost.tokenize_eq only filled source
  refine ⟨segments_source _, ?_, tokenized, ?_⟩
  · rw [rendered]
    cases outcome : (expand ctx 0 (segments source.toList)).result with
    | error e => rw [finish_of_error _ outcome, finish_of_error _ outcome]
    | ok nodes =>
      rw [finish_of_ok _ outcome, finish_of_ok _ outcome,
        nodesText_of_kind plain (expand_kind outcome)]
  · intro e
    rw [rendered, tokenized, finish_error_iff, finish_error_iff]
    refine ⟨Iff.rfl, ?_⟩
    constructor
    · rintro ⟨d, rfl, fails⟩
      obtain ⟨before, body, after, split, earlier, fatal⟩ := expand_error_iff.1 fails
      exact ⟨before, body, after, d, split, earlier, fatal, rfl⟩
    · rintro ⟨before, body, after, d, split, earlier, fatal, rfl⟩
      exact ⟨d, rfl, expand_error_iff.2 ⟨before, body, after, split, earlier, fatal⟩⟩

theorem render_by_references_greeting :
    let host := PlainHost.empty.installContext greetingContext
    let source := "é #\x7bgreeting\x7d#\x7babsent\x7d #\x7b#\x7bgreeting"
    host.rules = [(variableRuleName, variableRule greetingContext)] ∧
      greetingContext.lexicon.isEmpty = false ∧
      (∀ hook, Assoc.get? host.hooks variableKind = some hook → ∀ t, hook t = t.content) ∧
      host.render source = finish (fun nodes => String.join (nodes.map Node.content))
        (expand greetingContext 0 (segments source.toList)) := by
  intro host source
  have plain : ∀ hook, Assoc.get? host.hooks variableKind = some hook → ∀ t, hook t = t.content := by
    rintro hook ⟨⟩ t
    rfl
  exact ⟨rfl, rfl, plain, (render_by_references rfl rfl plain source).2.1⟩

end InlineVariables.Inline
