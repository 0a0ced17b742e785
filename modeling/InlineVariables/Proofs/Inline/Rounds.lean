import InlineVariables.Inline.Host

/-!
Rounds of a scan. In a round the rules are asked in order of registration; either one of them accepts
and consumes a stretch of text, or the character at the position is copied. `scanFrom_rounds` shows
that a scan by rules that honour the contract is a chain of rounds up to the end of the text or to a
rule that fails.
-/

namespace InlineVariables.Inline

/-- What a scan makes of a stretch of the text. -/
inductive Stretch where
  /-- A character that no rule claims. -/
  | copied (c : Char)
  /-- The text that an accepting rule consumes, and the tokens that it pushes for it. -/
  | consumed (span : List Char) (tokens : List Token)

namespace Stretch

/-- The text that a stretch takes up. -/
def source : Stretch → List Char
  | copied c => [c]
  | consumed span _ => span

/-- The tokens pushed for a stretch. -/
def tokens : Stretch → List Token
  | copied _ => []
  | consumed _ tokens => tokens

end Stretch

/-- The text that a host puts in the place of a stretch. -/
def PlainHost.stretchText (host : PlainHost) : Stretch → String
  | .copied c => String.singleton c
  | .consumed _ tokens => String.join (tokens.map host.tokenText)

/-- All rules honour the contract. -/
def Honoured (rules : List (String × Rule)) : Prop :=
  ∀ entry ∈ rules, entry.2.Honours

/-- All rules decline at a state and leave it as it was. -/
def Passed (rules : List (String × Rule)) (s : State) : Prop :=
  ∀ entry ∈ rules, (entry.2 s false).outcome = .ok false ∧ (entry.2 s false).state = s

/-- What rules report when they are asked at a state. -/
def reports (rules : List (String × Rule)) (s : State) : List Event :=
  rules.flatMap fun entry => (entry.2 s false).events

/-- One round: from a state, over a stretch, with some reports, to a state. The rule that accepts is
the first in order of registration that does not decline. -/
inductive Round (rules : List (String × Rule)) : State → Stretch → List Event → State → Prop where
  | copied {s : State} {c : Char} {rest : List Char} (here : s.rest? = some (c :: rest))
      (passed : Passed rules s) : Round rules s (.copied c) (reports rules s) s.advance
  | consumed {s t : State} {before after : List (String × Rule)} {name : String} {rule : Rule}
      {span rest : List Char} {tokens : List Token} {events : List Event}
      (order : rules = before ++ (name, rule) :: after) (passed : Passed before s)
      (accepts : rule s false = .accepted t events)
      (here : s.rest? = some (span ++ rest)) (there : t.rest? = some rest)
      (further : span ≠ []) (same : t.source = s.source)
      (pushed : t.newest = tokens.reverse.map .token ++ s.newest) :
      Round rules s (.consumed span tokens) (reports before s ++ events) t

/-- Rounds one after another. -/
inductive Rounds (rules : List (String × Rule)) :
    State → List Stretch → List Event → State → Prop where
  | stay (s : State) : Rounds rules s [] [] s
  | next {s t u : State} {stretch : Stretch} {stretches : List Stretch} {events more : List Event}
      (first : Round rules s stretch events t) (others : Rounds rules t stretches more u) :
      Rounds rules s (stretch :: stretches) (events ++ more) u

/-- A rule fails before the end of the text, the rules before it decline. -/
def Fails (rules : List (String × Rule)) (s : State) (e : ReferenceError) (events : List Event) :
    Prop :=
  ∃ before name rule after, rules = before ++ (name, rule) :: after ∧ Passed before s ∧
    (rule s false).outcome = .error e ∧ events = reports before s ++ (rule s false).events ∧
    0 < s.remaining

/-! ### Asking the rules -/

theorem passed_nil (s : State) : Passed [] s :=
  fun _ member => absurd member List.not_mem_nil

theorem passed_append {a b : List (String × Rule)} {s : State} :
    Passed (a ++ b) s ↔ Passed a s ∧ Passed b s :=
  List.forall_mem_append

theorem passed_cons {entry : String × Rule} {rules : List (String × Rule)} {s : State} :
    Passed (entry :: rules) s ↔
      ((entry.2 s false).outcome = .ok false ∧ (entry.2 s false).state = s) ∧ Passed rules s := by
  simp only [Passed, List.forall_mem_cons]

@[simp] theorem reports_cons (entry : String × Rule) (rules : List (String × Rule)) (s : State) :
    reports (entry :: rules) s = (entry.2 s false).events ++ reports rules s := rfl

theorem tryRules_append {before : List (String × Rule)} {s : State} (passed : Passed before s)
    (after : List (String × Rule)) :
    tryRules (before ++ after) s =
      ⟨(tryRules after s).outcome, (tryRules after s).state,
        reports before s ++ (tryRules after s).events⟩ := by
  induction before with
  | nil => rfl
  | cons entry before ih =>
    obtain ⟨⟨declines, stays⟩, passed⟩ := passed_cons.1 passed
    rw [List.cons_append, tryRules]
    simp only [declines, stays, ih passed, reports_cons, List.append_assoc]

theorem tryRules_of_passed {rules : List (String × Rule)} {s : State} (passed : Passed rules s) :
    tryRules rules s = ⟨.ok false, s, reports rules s⟩ := by
  have whole := tryRules_append passed []
  rw [List.append_nil] at whole
  rw [whole]
  simp [tryRules, Step.declined]

theorem tryRules_of_decides {before after : List (String × Rule)} {name : String} {rule : Rule}
    {s : State} (passed : Passed before s) (decides : (rule s false).outcome ≠ .ok false) :
    tryRules (before ++ (name, rule) :: after) s =
      ⟨(rule s false).outcome, (rule s false).state,
        reports before s ++ (rule s false).events⟩ := by
  have head : tryRules ((name, rule) :: after) s = rule s false := by
    rw [tryRules]
    split
    · exact absurd ‹_› decides
    · rfl
  rw [tryRules_append passed, head]

theorem passed_or_decides {rules : List (String × Rule)} {s : State}
    (keep : ∀ entry ∈ rules, (entry.2 s false).outcome = .ok false → (entry.2 s false).state = s) :
    Passed rules s ∨ ∃ before name rule after, rules = before ++ (name, rule) :: after ∧
      Passed before s ∧ (rule s false).outcome ≠ .ok false := by
  induction rules with
  | nil => exact .inl (passed_nil s)
  | cons entry rules ih =>
    obtain ⟨first, others⟩ := List.forall_mem_cons.1 keep
    by_cases declines : (entry.2 s false).outcome = .ok false
    · have head := And.intro declines (first declines)
      rcases ih others with passed | ⟨before, name, rule, after, order, passed, decides⟩
      · exact .inl (passed_cons.2 ⟨head, passed⟩)
      · refine .inr ⟨entry :: before, name, rule, after, ?_, passed_cons.2 ⟨head, passed⟩, decides⟩
        rw [order, List.cons_append]
    · exact .inr ⟨[], entry.1, entry.2, rules, rfl, passed_nil s, declines⟩

/-! ### Scanning in rounds -/

theorem State.Follows.span {s t : State} {text : List Char} (follows : s.Follows t)
    (here : s.rest? = some text) :
    ∃ span rest, text = span ++ rest ∧ span ≠ [] ∧ t.rest? = some rest := by
  obtain ⟨same, further, boundary, _⟩ := follows
  obtain ⟨rest, there⟩ := Option.isSome_iff_exists.1 boundary
  have dropped : Text.dropBytes text (t.position - s.position) = some rest := by
    rw [← Text.dropBytes_add (s.rest?_eq ▸ here), Nat.add_sub_cancel' (Nat.le_of_lt further), ← same,
      ← t.rest?_eq, there]
  obtain ⟨span, split, size⟩ := Text.dropBytes_eq_some_iff.1 dropped
  refine ⟨span, rest, split, ?_, there⟩
  rintro rfl
  rw [Text.byteLength_nil] at size
  omega

theorem byteLength_pos {span : List Char} (nonempty : span ≠ []) : 0 < Text.byteLength span := by
  cases span with
  | nil => exact absurd rfl nonempty
  | cons c rest =>
    have size := Char.utf8Size_pos c
    rw [Text.byteLength_cons]
    omega

theorem scanFrom_end (rules : List (String × Rule)) {s : State} (here : s.rest? = some []) :
    scanFrom rules s = .ok s := by
  have nothing : s.remaining = 0 := by rw [State.remaining_eq here, Text.byteLength_nil]
  rw [scanFrom, if_pos nothing]

theorem Round.text {rules : List (String × Rule)} {s t : State} {stretch : Stretch}
    {events : List Event} (round : Round rules s stretch events t) :
    ∃ rest, s.rest? = some (stretch.source ++ rest) ∧ t.rest? = some rest := by
  cases round with
  | copied here passed => exact ⟨_, here, State.advance_rest? here⟩
  | consumed order passed accepts here there further same pushed => exact ⟨_, here, there⟩

theorem Round.remaining_lt {rules : List (String × Rule)} {s t : State} {stretch : Stretch}
    {events : List Event} (round : Round rules s stretch events t) : t.remaining < s.remaining := by
  cases round with
  | copied here passed =>
    rw [State.remaining_eq here, State.remaining_eq (State.advance_rest? here), Text.byteLength_cons]
    exact Nat.lt_add_of_pos_left (Char.utf8Size_pos _)
  | consumed order passed accepts here there further same pushed =>
    rw [State.remaining_eq here, State.remaining_eq there, Text.byteLength_append]
    exact Nat.lt_add_of_pos_left (byteLength_pos further)

theorem scanFrom_round {rules : List (String × Rule)} {s t : State} {stretch : Stretch}
    {events : List Event} (round : Round rules s stretch events t) :
    scanFrom rules s = ⟨(scanFrom rules t).result, events ++ (scanFrom rules t).events⟩ := by
  have less := round.remaining_lt
  have more : s.remaining ≠ 0 := by omega
  rw [scanFrom, if_neg more]
  cases round with
  | copied here passed =>
    rw [tryRules_of_passed passed]
    simp only [Bool.false_eq_true, if_false, if_pos less]
  | consumed order passed accepts here there further same pushed =>
    subst order
    rw [tryRules_of_decides passed (by simp [accepts, Step.accepted]), accepts]
    simp only [Step.accepted, if_true, if_pos less]

theorem scanFrom_of_rounds {rules : List (String × Rule)} {s t : State}
    {stretches : List Stretch} {events : List Event} (rounds : Rounds rules s stretches events t) :
    scanFrom rules s = ⟨(scanFrom rules t).result, events ++ (scanFrom rules t).events⟩ := by
  induction rounds with
  | stay s => rfl
  | next first others ih => rw [scanFrom_round first, ih, List.append_assoc]

theorem scanFrom_fails {rules : List (String × Rule)} {s : State} {e : ReferenceError}
    {events : List Event} (fails : Fails rules s e events) :
    scanFrom rules s = ⟨.error (.reference e), events⟩ := by
  obtain ⟨before, name, rule, after, rfl, passed, outcome, rfl, more⟩ := fails
  have decides : (rule s false).outcome ≠ .ok false := by rw [outcome]; exact nofun
  rw [scanFrom, if_neg (by omega), tryRules_of_decides passed decides, outcome]

/-- Before the end of the text there is a next round, or a rule that fails. -/
theorem round_or_fails {rules : List (String × Rule)} {s : State} {c : Char} {rest : List Char}
    (honoured : Honoured rules) (here : s.rest? = some (c :: rest)) :
    (∃ stretch events t, Round rules s stretch events t) ∨ ∃ e events, Fails rules s e events := by
  have boundary : s.rest?.isSome = true := by rw [here]; rfl
  have more : 0 < s.remaining := by
    rw [State.remaining_eq here]
    exact byteLength_pos (List.cons_ne_nil c rest)
  have keep entry (member : entry ∈ rules) := (honoured entry member s boundary more).1
  rcases passed_or_decides keep with passed | ⟨before, name, rule, after, order, passed, decides⟩
  · exact .inl ⟨_, _, _, .copied here passed⟩
  · have member : (name, rule) ∈ rules := by rw [order]; simp
    cases outcome : (rule s false).outcome with
    | error e => exact .inr ⟨e, _, before, name, rule, after, order, passed, outcome, rfl, more⟩
    | ok accepted =>
      cases accepted with
      | false => exact absurd outcome decides
      | true =>
        have follows := (honoured _ member s boundary more).2 outcome
        obtain ⟨span, left, split, further, there⟩ := follows.span here
        obtain ⟨same, _, _, pushed, newest⟩ := follows
        have accepts : rule s false = .accepted (rule s false).state (rule s false).events := by
          rw [Step.accepted, ← outcome]
        rw [← List.reverse_reverse pushed] at newest
        exact .inl ⟨_, _, _, .consumed order passed accepts (here.trans (congrArg some split)) there
          further same newest⟩

/-- Rounds lead on to the end of the text or to a rule that fails. -/
theorem exists_rounds {rules : List (String × Rule)} (honoured : Honoured rules) {s : State}
    {text : List Char} (here : s.rest? = some text) :
    ∃ stretches events t, Rounds rules s stretches events t ∧
      (t.rest? = some [] ∨ ∃ e more, Fails rules t e more) := by
  -- Every round leaves less text, however far a rule moves.
  induction size : s.remaining using Nat.strongRecOn generalizing s text with
  | ind n ih =>
    cases text with
    | nil => exact ⟨[], [], s, .stay s, .inl here⟩
    | cons c rest =>
      rcases round_or_fails honoured here with ⟨stretch, events, t, round⟩ | ⟨e, events, fails⟩
      · obtain ⟨left, _, there⟩ := round.text
        obtain ⟨stretches, more, u, rounds, ends⟩ := ih _ (size ▸ round.remaining_lt) there rfl
        exact ⟨stretch :: stretches, events ++ more, u, .next round rounds, ends⟩
      · exact ⟨[], [], s, .stay s, .inr ⟨e, events, fails⟩⟩

/-- A scan is a chain of rounds up to the end of the text or to a rule that fails. -/
theorem scanFrom_rounds {rules : List (String × Rule)} (honoured : Honoured rules) {s : State}
    {text : List Char} (here : s.rest? = some text) :
    ∃ stretches events t, Rounds rules s stretches events t ∧
      ((t.rest? = some [] ∧ scanFrom rules s = ⟨.ok t, events⟩) ∨
        ∃ e more, Fails rules t e more ∧
          scanFrom rules s = ⟨.error (.reference e), events ++ more⟩) := by
  obtain ⟨stretches, events, t, rounds, ends⟩ := exists_rounds honoured here
  refine ⟨stretches, events, t, rounds, ?_⟩
  rw [scanFrom_of_rounds rounds]
  rcases ends with finished | ⟨e, more, fails⟩
  · rw [scanFrom_end rules finished]
    exact .inl ⟨finished, by simp [Run.ok]⟩
  · exact .inr ⟨e, more, fails, by rw [scanFrom_fails fails]⟩

/-- Where all rules decline without a report, the text is copied. -/
theorem rounds_copied {rules : List (String × Rule)} {s : State} {before tail : List Char}
    (here : s.rest? = some (before ++ tail))
    (declined : ∀ (t : State) (start inner : List Char), before = start ++ inner → inner ≠ [] →
      t.rest? = some (inner ++ tail) → ∀ entry ∈ rules, entry.2 t false = .declined t) :
    ∃ t, Rounds rules s (before.map .copied) [] t := by
  induction before generalizing s with
  | nil => exact ⟨s, .stay s⟩
  | cons c before ih =>
    have first := declined s [] (c :: before) rfl (List.cons_ne_nil c before) here
    have passed : Passed rules s := by
      intro entry member
      rw [first entry member]
      exact ⟨rfl, rfl⟩
    have quiet : reports rules s = [] := by
      refine List.flatMap_eq_nil_iff.2 fun entry member => ?_
      rw [first entry member]
      rfl
    have round := Round.copied here passed
    rw [quiet] at round
    obtain ⟨t, rounds⟩ := ih (State.advance_rest? here) fun t start inner split =>
      declined t (c :: start) inner (congrArg (c :: ·) split)
    exact ⟨t, .next round rounds⟩

/-! ### What rounds make of a text -/

theorem copied_source (content : List Char) :
    (content.map Stretch.copied).flatMap Stretch.source = content := by
  induction content with
  | nil => rfl
  | cons c content ih => rw [List.map_cons, List.flatMap_cons, ih]; rfl

theorem copied_text (host : PlainHost) (content : List Char) :
    String.join ((content.map Stretch.copied).map host.stretchText) = String.ofList content := by
  induction content with
  | nil => rfl
  | cons c content ih =>
    rw [List.map_cons, List.map_cons, String.join_cons, ih, String.ofList_cons]
    rfl

theorem copied_tokens (content : List Char) :
    (content.map Stretch.copied).flatMap Stretch.tokens = [] := by
  rw [List.flatMap_map]
  exact List.flatMap_eq_nil_iff.2 fun _ _ => rfl

section

variable {rules : List (String × Rule)} {s t : State} {stretch : Stretch}
  {stretches : List Stretch} {events : List Event}

theorem Round.source_eq (round : Round rules s stretch events t) : t.source = s.source := by
  cases round with
  | copied here passed => exact s.advance_source
  | consumed order passed accepts here there further same pushed => exact same

theorem Rounds.source_eq (rounds : Rounds rules s stretches events t) : t.source = s.source := by
  induction rounds with
  | stay s => rfl
  | next first others ih => exact ih.trans first.source_eq

theorem mem_reports {event : Event} :
    event ∈ reports rules s ↔ ∃ entry ∈ rules, event ∈ (entry.2 s false).events :=
  List.mem_flatMap

theorem Round.reported (round : Round rules s stretch events t) {event : Event}
    (member : event ∈ events) : ∃ entry ∈ rules, event ∈ (entry.2 s false).events := by
  cases round with
  | copied here passed => exact mem_reports.1 member
  | consumed order passed accepts here there further same pushed =>
    subst order
    rcases List.mem_append.1 member with early | last
    · obtain ⟨entry, asked, reports⟩ := mem_reports.1 early
      exact ⟨entry, List.mem_append_left _ asked, reports⟩
    · have accepted := congrArg Step.events accepts
      exact ⟨_, List.mem_append_right _ List.mem_cons_self, accepted ▸ last⟩

theorem Rounds.reported (rounds : Rounds rules s stretches events t) {event : Event}
    (member : event ∈ events) : ∃ entry ∈ rules, ∃ u, event ∈ (entry.2 u false).events := by
  induction rounds with
  | stay s => exact absurd member List.not_mem_nil
  | next first others ih =>
    rcases List.mem_append.1 member with now | later
    · obtain ⟨entry, asked, reports⟩ := first.reported now
      exact ⟨entry, asked, _, reports⟩
    · exact ih later

theorem Fails.reported {e : ReferenceError} (fails : Fails rules s e events) {event : Event}
    (member : event ∈ events) : ∃ entry ∈ rules, event ∈ (entry.2 s false).events := by
  obtain ⟨before, name, rule, after, rfl, passed, outcome, rfl, more⟩ := fails
  rcases List.mem_append.1 member with early | last
  · obtain ⟨entry, asked, reports⟩ := mem_reports.1 early
    exact ⟨entry, List.mem_append_left _ asked, reports⟩
  · exact ⟨(name, rule), List.mem_append_right _ List.mem_cons_self, last⟩

/-- What a scan reports comes from its rules. -/
theorem scanFrom_reported (honoured : Honoured rules) {text : List Char}
    (here : s.rest? = some text) {event : Event} (member : event ∈ (scanFrom rules s).events) :
    ∃ entry ∈ rules, ∃ u, event ∈ (entry.2 u false).events := by
  obtain ⟨stretches, events, t, rounds, ⟨finished, scanned⟩ | ⟨e, more, fails, scanned⟩⟩ :=
    scanFrom_rounds honoured here
  · rw [scanned] at member
    exact rounds.reported member
  · rw [scanned] at member
    rcases List.mem_append.1 member with early | last
    · exact rounds.reported early
    · obtain ⟨entry, asked, reports⟩ := fails.reported last
      exact ⟨entry, asked, t, reports⟩

theorem Round.nodesText_eq (host : PlainHost) (round : Round rules s stretch events t) :
    host.nodesText t.nodes = host.nodesText s.nodes ++ host.stretchText stretch := by
  cases round with
  | copied here passed =>
    rw [State.nodes, State.advance_newest here, host.nodesText_copyChar]
    rfl
  | consumed order passed accepts here there further same pushed =>
    rw [State.nodes, pushed, List.reverse_append, host.nodesText_append, ← List.map_reverse,
      List.reverse_reverse, host.nodesText_tokens]
    rfl

theorem Round.tokens_eq (round : Round rules s stretch events t) :
    t.tokens = s.tokens ++ stretch.tokens := by
  cases round with
  | copied here passed =>
    rw [State.tokens, State.nodes, State.advance_newest here, State.tokens_copyChar]
    exact (List.append_nil _).symm
  | consumed order passed accepts here there further same pushed =>
    rw [State.tokens, State.nodes, pushed, List.reverse_append, List.filterMap_append,
      ← List.map_reverse, List.reverse_reverse, State.filterMap_token?]
    rfl

theorem Rounds.nodesText_eq (host : PlainHost) (rounds : Rounds rules s stretches events t) :
    host.nodesText t.nodes =
      host.nodesText s.nodes ++ String.join (stretches.map host.stretchText) := by
  induction rounds with
  | stay s => simp
  | next first others ih =>
    rw [ih, first.nodesText_eq host, List.map_cons, String.join_cons, String.append_assoc]

theorem Rounds.tokens_eq (rounds : Rounds rules s stretches events t) :
    t.tokens = s.tokens ++ stretches.flatMap Stretch.tokens := by
  induction rounds with
  | stay s => simp
  | next first others ih => rw [ih, first.tokens_eq, List.flatMap_cons, List.append_assoc]

/-- Rounds go over their stretches, one after another, to a character boundary. -/
theorem Rounds.text (rounds : Rounds rules s stretches events t) {text : List Char}
    (here : s.rest? = some text) :
    ∃ rest, text = stretches.flatMap Stretch.source ++ rest ∧ t.rest? = some rest := by
  induction rounds generalizing text with
  | stay s => exact ⟨text, rfl, here⟩
  | next first others ih =>
    obtain ⟨left, before, there⟩ := first.text
    obtain ⟨rest, split, last⟩ := ih there
    obtain rfl := Option.some.inj (here.symm.trans before)
    exact ⟨rest, by rw [split, List.flatMap_cons, List.append_assoc], last⟩

theorem Rounds.position_eq (rounds : Rounds rules s stretches events t) {text : List Char}
    (here : s.rest? = some text) :
    t.position = s.position + Text.byteLength (stretches.flatMap Stretch.source) := by
  obtain ⟨rest, split, there⟩ := rounds.text here
  have start := State.position_add here
  have reached := State.position_add there
  have same : t.length = s.length := by rw [State.length, rounds.source_eq, State.length]
  rw [split, Text.byteLength_append] at start
  omega

end

end InlineVariables.Inline
