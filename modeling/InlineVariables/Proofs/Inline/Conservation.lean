import InlineVariables.Inline.Install
import InlineVariables.Proofs.Inline.VariableRule

/-!
A scan conserves its text: the copied characters and the stretches that rules consume make up the
source, and rendering changes the consumed stretches only.
-/

namespace InlineVariables.Inline

namespace PlainHost

variable {host : PlainHost} {source : String} {events : List Event}

theorem render_of_ok {t : State} (scanned : host.scan source = ⟨.ok t, events⟩) :
    host.render source = ⟨.ok (host.nodesText t.nodes), events⟩ := by
  simp [render, scanned, Run.andThen, Run.ok]

theorem tokenize_of_ok {t : State} (scanned : host.scan source = ⟨.ok t, events⟩) :
    host.tokenize source = ⟨.ok t.tokens, events⟩ := by
  simp [tokenize, scanned, Run.andThen, Run.ok]

theorem render_of_error {e : ScanError} (scanned : host.scan source = ⟨.error e, events⟩) :
    host.render source = ⟨.error e, events⟩ := by
  simp [render, scanned, Run.andThen]

theorem tokenize_of_error {e : ScanError} (scanned : host.scan source = ⟨.error e, events⟩) :
    host.tokenize source = ⟨.error e, events⟩ := by
  simp [tokenize, scanned, Run.andThen]

end PlainHost

theorem start_rest? (source : String) : (State.start source).rest? = some source.toList := rfl

/-- Rules that always decline leave the text as it is. -/
theorem scan_of_declined {host : PlainHost}
    (declined : ∀ entry ∈ host.rules, ∀ s, entry.2 s false = .declined s) (source : String) :
    host.render source = .ok source ∧ host.tokenize source = .ok [] := by
  have here : (State.start source).rest? = some (source.toList ++ []) := by
    rw [List.append_nil, start_rest?]
  obtain ⟨t, rounds⟩ := rounds_copied here fun t start inner _ _ _ entry member =>
    declined entry member t
  obtain ⟨rest, split, there⟩ := rounds.text here
  rw [copied_source] at split
  obtain rfl := List.append_cancel_left split
  have scanned : host.scan source = ⟨.ok t, []⟩ := by
    unfold PlainHost.scan
    rw [scanFrom_of_rounds rounds, scanFrom_end _ there]
    rfl
  constructor
  · rw [PlainHost.render_of_ok scanned, rounds.nodesText_eq host, copied_text]
    simp [State.start, State.nodes, Run.ok]
  · rw [PlainHost.tokenize_of_ok scanned, rounds.tokens_eq, copied_tokens]
    rfl

/-- A scan with rules that honour the contract goes in rounds, each at a character boundary, from
the beginning of the text to its end or to the first rule that fails. The stretches of the rounds
make up the text, and only the consumed ones are rendered otherwise than they are written. The rule
for variables is one that honours the contract. -/
theorem scan_conserves_source (host : PlainHost) (honoured : Honoured host.rules)
    (source : String) :
    (∃ stretches events t, Rounds host.rules (.start source) stretches events t ∧
      ((stretches.flatMap Stretch.source = source.toList ∧
          host.scan source = ⟨.ok t, events⟩ ∧
          host.render source = ⟨.ok (String.join (stretches.map host.stretchText)), events⟩ ∧
          host.tokenize source = ⟨.ok (stretches.flatMap Stretch.tokens), events⟩) ∨
        ∃ e more, Fails host.rules t e more ∧
          host.scan source = ⟨.error (.reference e), events ++ more⟩ ∧
          host.render source = ⟨.error (.reference e), events ++ more⟩ ∧
          host.tokenize source = ⟨.error (.reference e), events ++ more⟩)) ∧
    (∀ stretches events t, Rounds host.rules (.start source) stretches events t →
      t.source = source ∧ t.position = Text.byteLength (stretches.flatMap Stretch.source) ∧
        ∃ rest, t.rest? = some rest ∧
          source.toList = stretches.flatMap Stretch.source ++ rest) ∧
    ∀ ctx, (variableRule ctx).Honours := by
  have here := start_rest? source
  refine ⟨?_, ?_, variableRule_honours⟩
  · obtain ⟨stretches, events, t, rounds, ends⟩ := scanFrom_rounds honoured here
    refine ⟨stretches, events, t, rounds, ?_⟩
    rcases ends with ⟨finished, scanned⟩ | ⟨e, more, fails, scanned⟩
    · obtain ⟨rest, split, there⟩ := rounds.text here
      obtain rfl := Option.some.inj (finished.symm.trans there)
      have text := rounds.nodesText_eq host
      have tokens := rounds.tokens_eq
      refine .inl ⟨by rw [split, List.append_nil], scanned, ?_, ?_⟩
      · rw [PlainHost.render_of_ok scanned, text]
        simp [State.start, State.nodes]
      · rw [PlainHost.tokenize_of_ok scanned, tokens]
        simp [State.start, State.tokens, State.nodes]
    · exact .inr ⟨e, more, fails, scanned, PlainHost.render_of_error scanned,
        PlainHost.tokenize_of_error scanned⟩
  · intro stretches events t rounds
    obtain ⟨rest, split, there⟩ := rounds.text here
    have reached := rounds.position_eq here
    exact ⟨rounds.source_eq, reached.trans (Nat.zero_add _), rest, there, split⟩

theorem scan_conserves_greeting :
    let host := PlainHost.empty.installContext greetingContext
    let source := "é #\x7bgreeting\x7d #\x7b"
    Honoured host.rules ∧
      ∃ stretches events t, Rounds host.rules (.start source) stretches events t ∧
        ((stretches.flatMap Stretch.source = source.toList ∧
            host.scan source = ⟨.ok t, events⟩ ∧
            host.render source = ⟨.ok (String.join (stretches.map host.stretchText)), events⟩ ∧
            host.tokenize source = ⟨.ok (stretches.flatMap Stretch.tokens), events⟩) ∨
          ∃ e more, Fails host.rules t e more ∧
            host.scan source = ⟨.error (.reference e), events ++ more⟩ ∧
            host.render source = ⟨.error (.reference e), events ++ more⟩ ∧
            host.tokenize source = ⟨.error (.reference e), events ++ more⟩) := by
  intro host source
  have honoured : Honoured host.rules := by
    intro entry member
    obtain rfl := List.mem_singleton.1 member
    exact variableRule_honours greetingContext
  exact ⟨honoured, (scan_conserves_source host honoured source).1⟩

end InlineVariables.Inline
