import InlineVariables.Proofs.Inline.Rounds

/-!
What the rule for variables does at a state, in four cases: the lexicon is empty, no reference opens
at the position, the reference is never closed, or it has a body. `Call` lists the ways in which a call
may end, and `variableRule_call` shows that there are no others. `variableRule_honours` shows that the
rule honours the contract.
-/

namespace InlineVariables.Inline

/-- The position lies between two parts of the text. -/
def State.LiesBetween (s : State) (before rest : List Char) : Prop :=
  s.source.toList = before ++ rest ∧ s.position = Text.byteLength before

theorem State.rest?_eq_some_iff {s : State} {rest : List Char} :
    s.rest? = some rest ↔ ∃ before, s.LiesBetween before rest := by
  rw [s.rest?_eq, Text.dropBytes_eq_some_iff]
  unfold LiesBetween
  constructor
  · rintro ⟨start, split, size⟩
    exact ⟨start, split, size.symm⟩
  · rintro ⟨start, split, size⟩
    exact ⟨start, split, size.symm⟩

/-- The text from the position on begins a reference. -/
def State.Opens (s : State) : Prop :=
  ∃ inner, s.rest? = some (opening ++ inner)

section

variable {ctx : Context} {s : State}

/-- The state after a token is pushed for the next text. -/
def State.pushFor (s : State) (token : Token) (span : List Char) : State :=
  (s.push token).moveTo (s.position + Text.byteLength span)

theorem State.pushFor_rest? {span rest : List Char} (here : s.rest? = some (span ++ rest))
    (token : Token) : (s.pushFor token span).rest? = some rest :=
  State.moveTo_rest? (s := s.push token) here

theorem State.pushFor_source (s : State) (token : Token) (span : List Char) :
    (s.pushFor token span).source = s.source := by
  rw [pushFor, moveTo_source, push_source]

theorem State.pushFor_newest (s : State) (token : Token) (span : List Char) :
    (s.pushFor token span).newest = .token token :: s.newest := by
  rw [pushFor, moveTo_newest, push_newest]

theorem State.pushFor_position (s : State) (token : Token) (span : List Char) :
    (s.pushFor token span).position = s.position + Text.byteLength span := by
  rw [pushFor, moveTo_position]

theorem State.follows_pushFor {span rest : List Char} (here : s.rest? = some (span ++ rest))
    (further : span ≠ []) (token : Token) : s.Follows (s.pushFor token span) := by
  refine ⟨s.pushFor_source token span, ?_, ?_, [token], s.pushFor_newest token span⟩
  · rw [pushFor_position]
    exact Nat.lt_add_of_pos_right (byteLength_pos further)
  · rw [pushFor_rest? here]
    rfl

theorem variableRule_of_empty (empty : ctx.lexicon.isEmpty = true) (s : State) (silent : Bool) :
    variableRule ctx s silent = .declined s := by
  simp [variableRule, empty]

theorem variableRule_of_not_opens (ctx : Context) (plain : ¬ s.Opens) :
    variableRule ctx s false = .declined s := by
  unfold variableRule
  split
  · rfl
  · split
    · rfl
    · rename_i rest inner found
      obtain ⟨text, here, more⟩ := Option.bind_eq_some_iff.1 found
      obtain ⟨tail, begins, same⟩ := Option.map_eq_some_iff.1 more
      cases same
      exact absurd ⟨_, here.trans (congrArg some (Text.after?_eq_some_iff.1 begins))⟩ plain

theorem find_opening {inner : List Char} (here : s.rest? = some (opening ++ inner)) :
    (s.rest?.bind fun rest => (Text.after? opening rest).map fun inner => (rest, inner)) =
      some (opening ++ inner, inner) := by
  have begins : Text.after? opening (opening ++ inner) = some inner :=
    Text.after?_eq_some_iff.2 rfl
  rw [here, Option.bind_some, begins, Option.map_some]

/-- The rest of the text becomes a token when its reference is never closed. -/
theorem variableRule_of_unclosed {inner : List Char} (filled : ctx.lexicon.isEmpty = false)
    (here : s.rest? = some (opening ++ inner)) (unclosed : closing ∉ inner) :
    variableRule ctx s false =
      .accepted (s.pushFor ⟨variableKind, String.ofList (opening ++ inner)⟩ (opening ++ inner))
        [.unterminatedReference s.position] := by
  unfold variableRule State.pushFor
  rw [State.position_add here]
  simp only [filled, Bool.or_self, Bool.false_eq_true, if_false, find_opening here,
    Text.cutAt?_eq_none_iff.2 unclosed]

theorem variableRule_of_error {body after : List Char} {e : ReferenceError}
    (filled : ctx.lexicon.isEmpty = false)
    (here : s.rest? = some (opening ++ (body ++ closing :: after))) (first : closing ∉ body)
    (fatal : (ctx.resolve (String.ofList body)).result = .error e) :
    variableRule ctx s false = .failed e s (ctx.resolve (String.ofList body)).events := by
  unfold variableRule
  simp only [filled, Bool.or_self, Bool.false_eq_true, if_false, find_opening here,
    Text.cutAt?_append first, fatal]

theorem variableRule_of_ok {body after : List Char} {replacement : Option String}
    (filled : ctx.lexicon.isEmpty = false)
    (here : s.rest? = some (opening ++ (body ++ closing :: after))) (first : closing ∉ body)
    (resolved : (ctx.resolve (String.ofList body)).result = .ok replacement) :
    variableRule ctx s false =
      .accepted (s.pushFor
          ⟨variableKind, replacement.getD (String.ofList (opening ++ body ++ [closing]))⟩
          (opening ++ body ++ [closing]))
        (ctx.resolve (String.ofList body)).events := by
  unfold variableRule State.pushFor
  simp only [filled, Bool.or_self, Bool.false_eq_true, if_false, find_opening here,
    Text.cutAt?_append first, resolved]

/-- How a call of the rule for variables ends. -/
inductive Call (ctx : Context) (s : State) (silent : Bool) : Step → Prop where
  | silenced (quiet : silent = true) : Call ctx s silent (.declined s)
  | empty (nothing : ctx.lexicon.isEmpty = true) : Call ctx s silent (.declined s)
  | elsewhere (plain : ¬ s.Opens) : Call ctx s silent (.declined s)
  | failed {before body after : List Char} {e : ReferenceError} (loud : silent = false)
    (filled : ctx.lexicon.isEmpty = false)
    (lies : s.LiesBetween before (opening ++ (body ++ closing :: after))) (first : closing ∉ body)
    (fatal : (ctx.resolve (String.ofList body)).result = .error e) :
    Call ctx s silent (.failed e s (ctx.resolve (String.ofList body)).events)
  | resolved {before body after : List Char} {replacement : Option String} (loud : silent = false)
    (filled : ctx.lexicon.isEmpty = false)
    (lies : s.LiesBetween before (opening ++ (body ++ closing :: after))) (first : closing ∉ body)
    (yields : (ctx.resolve (String.ofList body)).result = .ok replacement) :
    Call ctx s silent
      (.accepted (s.pushFor
          ⟨variableKind, replacement.getD (String.ofList (opening ++ body ++ [closing]))⟩
          (opening ++ body ++ [closing]))
        (ctx.resolve (String.ofList body)).events)
  | unclosed {before inner : List Char} (loud : silent = false)
    (filled : ctx.lexicon.isEmpty = false) (lies : s.LiesBetween before (opening ++ inner))
    (endless : closing ∉ inner) :
    Call ctx s silent
      (.accepted (s.pushFor ⟨variableKind, String.ofList (opening ++ inner)⟩ (opening ++ inner))
        [.unterminatedReference s.position])

theorem variableRule_silent (ctx : Context) (s : State) : variableRule ctx s true = .declined s := by
  simp [variableRule]

theorem variableRule_call (ctx : Context) (s : State) (silent : Bool) :
    Call ctx s silent (variableRule ctx s silent) := by
  cases silent with
  | true =>
    rw [variableRule_silent]
    exact .silenced rfl
  | false =>
    cases filled : ctx.lexicon.isEmpty with
    | true =>
      rw [variableRule_of_empty filled]
      exact .empty filled
    | false =>
      by_cases opens : s.Opens
      · obtain ⟨inner, here⟩ := opens
        obtain ⟨before, lies⟩ := State.rest?_eq_some_iff.1 here
        cases cut : Text.cutAt? closing inner with
        | none =>
          have endless := Text.cutAt?_eq_none_iff.1 cut
          rw [variableRule_of_unclosed filled here endless]
          exact .unclosed rfl filled lies endless
        | some parts =>
          obtain ⟨body, after⟩ := parts
          obtain ⟨rfl, first⟩ := Text.cutAt?_eq_some cut
          cases yields : (ctx.resolve (String.ofList body)).result with
          | error e =>
            rw [variableRule_of_error filled here first yields]
            exact .failed rfl filled lies first yields
          | ok replacement =>
            rw [variableRule_of_ok filled here first yields]
            exact .resolved rfl filled lies first yields
      · rw [variableRule_of_not_opens ctx opens]
        exact .elsewhere opens

/-- Where a reference opens, the rule does not decline, whatever its lexicon holds. -/
theorem variableRule_of_opens (filled : ctx.lexicon.isEmpty = false) (opens : s.Opens) :
    (∃ span rest token events, s.rest? = some (span ++ rest) ∧ span ≠ [] ∧
      variableRule ctx s false = .accepted (s.pushFor token span) events) ∨
    ∃ e events, variableRule ctx s false = .failed e s events := by
  have call := variableRule_call ctx s false
  generalize variableRule ctx s false = step at call ⊢
  cases call with
  | silenced quiet => cases quiet
  | empty nothing => cases filled.symm.trans nothing
  | elsewhere plain => exact absurd opens plain
  | failed => exact .inr ⟨_, _, rfl⟩
  | @resolved before body after _ _ _ lies =>
    refine .inl ⟨opening ++ body ++ [closing], after, _, _, ?_, List.cons_ne_nil _ _, rfl⟩
    exact State.rest?_eq_some_iff.2 ⟨before, by simpa using lies⟩
  | @unclosed before inner _ _ lies =>
    refine .inl ⟨opening ++ inner, [], _, _, ?_, List.cons_ne_nil _ _, rfl⟩
    exact State.rest?_eq_some_iff.2 ⟨before, by simpa using lies⟩

theorem variableRule_honours (ctx : Context) : (variableRule ctx).Honours := by
  intro s boundary more
  by_cases empty : ctx.lexicon.isEmpty = true
  · rw [variableRule_of_empty empty]
    exact ⟨fun _ => rfl, nofun⟩
  have filled : ctx.lexicon.isEmpty = false := Bool.eq_false_iff.2 empty
  by_cases opens : s.Opens
  · rcases variableRule_of_opens filled opens with
      ⟨span, rest, token, events, here, further, accepts⟩ | ⟨e, events, failed⟩
    · rw [accepts]
      exact ⟨nofun, fun _ => State.follows_pushFor here further token⟩
    · rw [failed]
      exact ⟨nofun, nofun⟩
  · rw [variableRule_of_not_opens ctx opens]
    exact ⟨fun _ => rfl, nofun⟩

end

/-- A context with one simple variable. -/
def greetingContext : Context :=
  ⟨⟨[("greeting", .simple "hello")]⟩, ⟨.warn, false, .recorder 0⟩, none⟩

end InlineVariables.Inline
