import InlineVariables.Proofs.Inline.VariableRule

/-!
The references of a text, read off from the left: `segments` cuts the text at each leftmost opening
and the first closing sign after it. `scanFrom_segments` shows that the scan with the rule for
variables alone, which goes by single characters and byte offsets, gives just these segments.
-/

namespace InlineVariables.Text

/-- The text before and after the leftmost occurrence of a separator that is not empty. -/
def cutOn? (separator : List Char) : List Char → Option (List Char × List Char)
  | [] => none
  | c :: rest =>
    match after? separator (c :: rest) with
    | some after => some ([], after)
    | none => (cutOn? separator rest).map fun (before, after) => (c :: before, after)

theorem cutOn?_eq_some {separator text before after : List Char}
    (found : cutOn? separator text = some (before, after)) :
    text = before ++ (separator ++ after) ∧
      ∀ start rest, text = start ++ (separator ++ rest) → before.length ≤ start.length := by
  induction text generalizing before with
  | nil => simp [cutOn?] at found
  | cons c text ih =>
    rw [cutOn?] at found
    split at found
    · rename_i tail begins
      cases found
      rw [List.nil_append]
      exact ⟨after?_eq_some_iff.1 begins, fun start rest _ => Nat.zero_le _⟩
    · rename_i none_here
      obtain ⟨⟨inner, tail⟩, cut, same⟩ := Option.map_eq_some_iff.1 found
      cases same
      obtain ⟨whole, leftmost⟩ := ih cut
      refine ⟨by rw [whole, List.cons_append], ?_⟩
      intro start rest split
      cases start with
      | nil =>
        rw [List.nil_append] at split
        rw [after?_eq_some_iff.2 split] at none_here
        cases none_here
      | cons d start =>
        have shorter := leftmost start rest (List.cons.inj split).2
        exact Nat.succ_le_succ shorter

theorem cutOn?_eq_none {separator text : List Char} (nonempty : separator ≠ [])
    (absent : cutOn? separator text = none) (start rest : List Char) :
    text ≠ start ++ (separator ++ rest) := by
  induction text generalizing start with
  | nil =>
    intro split
    exact nonempty (List.append_eq_nil_iff.1 (List.append_eq_nil_iff.1 split.symm).2).1
  | cons c text ih =>
    rw [cutOn?] at absent
    split at absent
    · cases absent
    · rename_i none_here
      intro split
      cases start with
      | nil =>
        rw [List.nil_append] at split
        rw [after?_eq_some_iff.2 split] at none_here
        cases none_here
      | cons d start => exact ih (Option.map_eq_none_iff.1 absent) start (List.cons.inj split).2

end InlineVariables.Text

namespace InlineVariables.Inline

/-- A part of a text, as references divide it. -/
inductive Segment where
  | text (content : List Char)
  /-- A reference by its body. -/
  | reference (body : List Char)
  /-- An opening that is never closed, by all that comes after it. -/
  | unclosed (inner : List Char)
  deriving DecidableEq

/-- A segment as it is written. -/
def Segment.source : Segment → List Char
  | text content => content
  | reference body => opening ++ body ++ [closing]
  | unclosed inner => opening ++ inner

theorem length_lt_of_cuts {text before inner body after : List Char}
    (opens : Text.cutOn? opening text = some (before, inner))
    (closes : Text.cutAt? closing inner = some (body, after)) : after.length < text.length := by
  rw [(Text.cutOn?_eq_some opens).1, (Text.cutAt?_eq_some closes).1]
  simp only [List.length_append, List.length_cons]
  omega

/-- Cuts a text at the leftmost opening and at the first closing sign after it, and goes on behind
that sign. -/
def segments (text : List Char) : List Segment :=
  match opens : Text.cutOn? opening text with
  | none => [.text text]
  | some (before, inner) =>
    match closes : Text.cutAt? closing inner with
    | none => [.text before, .unclosed inner]
    | some (body, after) =>
      have := length_lt_of_cuts opens closes
      .text before :: .reference body :: segments after
termination_by text.length

theorem segments_of_plain {text : List Char} (plain : Text.cutOn? opening text = none) :
    segments text = [.text text] := by
  rw [segments]
  split <;> simp_all

theorem segments_of_unclosed {text before inner : List Char}
    (opens : Text.cutOn? opening text = some (before, inner))
    (unclosed : Text.cutAt? closing inner = none) :
    segments text = [.text before, .unclosed inner] := by
  rw [segments]
  split
  · simp_all
  · rename_i found
    cases opens.symm.trans found
    split <;> simp_all

theorem segments_of_closed {text before inner body after : List Char}
    (opens : Text.cutOn? opening text = some (before, inner))
    (closes : Text.cutAt? closing inner = some (body, after)) :
    segments text = .text before :: .reference body :: segments after := by
  rw [segments]
  split
  · simp_all
  · rename_i found
    cases opens.symm.trans found
    split <;> simp_all

/-- Segments lose nothing. -/
theorem segments_source (text : List Char) : (segments text).flatMap Segment.source = text := by
  induction text using segments.induct with
  | case1 text plain =>
    rw [segments_of_plain plain]
    exact List.append_nil text
  | case2 text before inner opens unclosed =>
    rw [segments_of_unclosed opens unclosed, (Text.cutOn?_eq_some opens).1]
    simp [Segment.source]
  | case3 text before inner opens body after closes this ih =>
    rw [segments_of_closed opens closes, List.flatMap_cons, List.flatMap_cons, ih,
      (Text.cutOn?_eq_some opens).1, (Text.cutAt?_eq_some closes).1]
    simp [Segment.source]

/-- What a context makes of a segment at a byte offset: copied text, or a token. -/
def Segment.expand (ctx : Context) (offset : Nat) : Segment → Run ReferenceError Node
  | text content => .ok (.text (String.ofList content))
  | reference body => do
    let replacement ← ctx.resolve (String.ofList body)
    return .token ⟨variableKind, replacement.getD (String.ofList (reference body).source)⟩
  | unclosed inner => do
    Run.report (.unterminatedReference offset)
    return .token ⟨variableKind, String.ofList (unclosed inner).source⟩

/-- Expands segments that begin at an offset, up to the first problem that is fatal. -/
def expand (ctx : Context) : Nat → List Segment → Run ReferenceError (List Node)
  | _, [] => .ok []
  | offset, segment :: rest => do
    let node ← segment.expand ctx offset
    let nodes ← expand ctx (offset + Text.byteLength segment.source) rest
    return node :: nodes

/-! ### The scan agrees with the segments -/

/-- The nodes found between two states, up to the joining of neighbouring text. -/
def State.Adds (s : State) (nodes : List Node) (t : State) : Prop :=
  (∀ host : PlainHost, host.nodesText t.nodes = host.nodesText s.nodes ++ host.nodesText nodes) ∧
    t.tokens = s.tokens ++ nodes.filterMap Node.token?

theorem State.Adds.trans {s t u : State} {a b : List Node} (first : s.Adds a t)
    (second : t.Adds b u) : s.Adds (a ++ b) u := by
  constructor
  · intro host
    rw [second.1 host, first.1 host, host.nodesText_append, String.append_assoc]
  · rw [second.2, first.2, List.filterMap_append, List.append_assoc]

theorem State.Adds.of_copied {rules : List (String × Rule)} {s t : State} {content : List Char}
    {events : List Event} (rounds : Rounds rules s (content.map .copied) events t) :
    s.Adds [.text (String.ofList content)] t := by
  constructor
  · intro host
    rw [rounds.nodesText_eq host, copied_text host]
    simp [PlainHost.nodesText, PlainHost.nodeText]
  · rw [rounds.tokens_eq, copied_tokens]
    rfl

theorem State.Adds.of_consumed {rules : List (String × Rule)} {s t : State} {span : List Char}
    {token : Token} {events : List Event} (round : Round rules s (.consumed span [token]) events t) :
    s.Adds [.token token] t := by
  constructor
  · intro host
    rw [round.nodesText_eq host]
    simp [PlainHost.stretchText, PlainHost.nodesText, PlainHost.nodeText]
  · rw [round.tokens_eq]
    rfl

section

variable {ctx : Context} {s t : State}

/-- The text before the leftmost opening is copied. -/
theorem scanFrom_copied (ctx : Context) (name : String) {before tail : List Char}
    (here : s.rest? = some (before ++ tail))
    (leftmost : ∀ start rest, before ++ tail = start ++ (opening ++ rest) →
      before.length ≤ start.length) :
    ∃ t, scanFrom [(name, variableRule ctx)] s = scanFrom [(name, variableRule ctx)] t ∧
      t.rest? = some tail ∧ t.position = s.position + Text.byteLength before ∧
      s.Adds [.text (String.ofList before)] t := by
  have declined : ∀ (t : State) (start inner : List Char), before = start ++ inner → inner ≠ [] →
      t.rest? = some (inner ++ tail) →
        ∀ entry ∈ [(name, variableRule ctx)], entry.2 t false = .declined t := by
    rintro t start inner rfl nonempty there entry member
    obtain rfl := List.mem_singleton.1 member
    refine variableRule_of_not_opens ctx ?_
    rintro ⟨rest, opens⟩
    have split := Option.some.inj (there.symm.trans opens)
    have early := leftmost start rest (by rw [List.append_assoc, split])
    have some_text := List.length_pos_iff.2 nonempty
    rw [List.length_append] at early
    omega
  obtain ⟨t, rounds⟩ := rounds_copied here declined
  obtain ⟨rest, split, there⟩ := rounds.text here
  have reached := rounds.position_eq here
  rw [copied_source] at split reached
  obtain rfl := List.append_cancel_left split
  exact ⟨t, scanFrom_of_rounds rounds, there, reached, .of_copied rounds⟩

theorem round_pushFor {rule : Rule} {span rest : List Char} {token : Token} {events : List Event}
    (name : String) (here : s.rest? = some (span ++ rest)) (further : span ≠ [])
    (accepts : rule s false = .accepted (s.pushFor token span) events) :
    Round [(name, rule)] s (.consumed span [token]) events (s.pushFor token span) := by
  exact .consumed rfl (passed_nil s) accepts here (State.pushFor_rest? here token) further
    (s.pushFor_source token span) (s.pushFor_newest token span)

/-- A scan from a state does what an expansion says. -/
structure Agrees (s : State) (scan : Run ScanError State)
    (expansion : Run ReferenceError (List Node)) : Prop where
  events : scan.events = expansion.events
  error : ∀ e, expansion.result = .error e → scan.result = .error (.reference e)
  ok : ∀ nodes, expansion.result = .ok nodes → ∃ t, scan.result = .ok t ∧ s.Adds nodes t

theorem Agrees.next {scan : Run ScanError State} {rest : Run ReferenceError (List Node)}
    {node : Node} (adds : s.Adds [node] t) (agrees : Agrees t scan rest) (events : List Event) :
    Agrees s ⟨scan.result, events ++ scan.events⟩
      ((Run.mk (.ok node) events).andThen fun node => rest.andThen fun nodes =>
        .ok (node :: nodes)) := by
  obtain ⟨same, error, ok⟩ := agrees
  obtain ⟨result, more⟩ := rest
  cases result with
  | error e =>
    refine ⟨?_, ?_, ?_⟩
    · simp [Run.andThen, same]
    · intro d fails
      cases fails
      exact error e rfl
    · intro nodes fails
      cases fails
  | ok nodes =>
    obtain ⟨u, finished, last⟩ := ok nodes rfl
    refine ⟨?_, ?_, ?_⟩
    · simp [Run.andThen, Run.ok, same]
    · intro e yields
      cases yields
    · intro all yields
      cases yields
      exact ⟨u, finished, adds.trans last⟩

theorem expand_cons (ctx : Context) (offset : Nat) (segment : Segment) (rest : List Segment) :
    expand ctx offset (segment :: rest) =
      (segment.expand ctx offset).andThen fun node =>
        (expand ctx (offset + Text.byteLength segment.source) rest).andThen fun nodes =>
          .ok (node :: nodes) := rfl

theorem expand_reference_of_error {body : List Char} {e : ReferenceError} (offset : Nat)
    (fatal : (ctx.resolve (String.ofList body)).result = .error e) :
    (Segment.reference body).expand ctx offset =
      ⟨.error e, (ctx.resolve (String.ofList body)).events⟩ :=
  Run.andThen_of_error _ fatal

theorem expand_reference_of_ok {body : List Char} {replacement : Option String} (offset : Nat)
    (resolved : (ctx.resolve (String.ofList body)).result = .ok replacement) :
    (Segment.reference body).expand ctx offset =
      ⟨.ok (.token ⟨variableKind,
          replacement.getD (String.ofList (opening ++ body ++ [closing]))⟩),
        (ctx.resolve (String.ofList body)).events⟩ := by
  refine (Run.andThen_of_ok _ resolved).trans ?_
  simp [Run.ok, Segment.source]

theorem fails_of_failed {rule : Rule} {e : ReferenceError} {events : List Event} {c : Char}
    {rest : List Char} (name : String) (failed : rule s false = .failed e s events)
    (here : s.rest? = some (c :: rest)) : Fails [(name, rule)] s e events := by
  have more : 0 < s.remaining := by
    rw [State.remaining_eq here]
    exact byteLength_pos (List.cons_ne_nil c rest)
  refine ⟨[], name, rule, [], rfl, passed_nil s, ?_, ?_, more⟩
  · rw [failed]
    rfl
  · rw [failed]
    rfl

theorem Agrees.done (s : State) : Agrees s (.ok s) (.ok []) := by
  refine ⟨rfl, nofun, ?_⟩
  rintro nodes ⟨⟩
  exact ⟨s, rfl, by simp, by simp⟩

/-- The scan with the rule for variables alone does what the segments of the text say. -/
theorem scanFrom_segments {text : List Char} (filled : ctx.lexicon.isEmpty = false)
    (name : String) (here : s.rest? = some text) :
    Agrees s (scanFrom [(name, variableRule ctx)] s) (expand ctx s.position (segments text)) := by
  -- The segments set the pace: many rounds copy the text before an opening, one makes the token.
  induction text using segments.induct generalizing s with
  | case1 text plain =>
    have absent := Text.cutOn?_eq_none (List.cons_ne_nil _ _) plain
    have whole : s.rest? = some (text ++ []) := by rw [List.append_nil, here]
    obtain ⟨t, same, there, reached, adds⟩ := scanFrom_copied ctx name whole
      fun start rest split => absurd (text.append_nil.symm.trans split) (absent start rest)
    rw [same, scanFrom_end _ there, segments_of_plain plain]
    exact (Agrees.done t).next adds []
  | case2 text before inner opens unclosed =>
    obtain ⟨rfl, leftmost⟩ := Text.cutOn?_eq_some opens
    obtain ⟨t, same, there, reached, adds⟩ := scanFrom_copied ctx name here leftmost
    have accepts := variableRule_of_unclosed filled there (Text.cutAt?_eq_none_iff.1 unclosed)
    have whole : t.rest? = some ((opening ++ inner) ++ []) := by rw [List.append_nil, there]
    have round := round_pushFor name whole (List.cons_ne_nil _ _) accepts
    have rest := (Agrees.done _).next (.of_consumed round) [.unterminatedReference t.position]
    have all := rest.next adds []
    rw [same, scanFrom_round round, scanFrom_end _ (State.pushFor_rest? whole _),
      segments_of_unclosed opens unclosed]
    rw [reached] at all ⊢
    exact all
  | case3 text before inner opens body after closes this ih =>
    obtain ⟨rfl, leftmost⟩ := Text.cutOn?_eq_some opens
    obtain ⟨rfl, first⟩ := Text.cutAt?_eq_some closes
    obtain ⟨t, same, there, reached, adds⟩ := scanFrom_copied ctx name here leftmost
    rw [same, segments_of_closed opens closes]
    have whole : t.rest? = some ((opening ++ body ++ [closing]) ++ after) := by simp [there]
    cases resolved : (ctx.resolve (String.ofList body)).result with
    | error e =>
      have fails := fails_of_failed name (variableRule_of_error filled there first resolved) there
      rw [scanFrom_fails fails, expand_cons, expand_cons, expand_reference_of_error _ resolved]
      exact ⟨rfl, fun d same => congrArg _ (congrArg _ (Except.error.inj same)), nofun⟩
    | ok replacement =>
      have accepts := variableRule_of_ok filled there first resolved
      have round := round_pushFor name whole (List.cons_ne_nil _ _) accepts
      have rest := (ih (State.pushFor_rest? whole _)).next (.of_consumed round)
        (ctx.resolve (String.ofList body)).events
      have all := rest.next adds []
      rw [State.pushFor_position, reached] at all
      rw [scanFrom_round round, expand_cons, expand_cons, expand_reference_of_ok _ resolved]
      exact all

end

end InlineVariables.Inline
