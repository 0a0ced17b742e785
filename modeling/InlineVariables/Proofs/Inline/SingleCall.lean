import InlineVariables.Proofs.Inline.VariableRule

/-!
A single call of the rule for variables, at any state and in either mode. `slicedCall` does the same by
byte offsets and checks every slice it takes (`Call.slicedCall_eq`). `variableRule_calls` collects what
follows for the state.
-/

namespace InlineVariables

namespace Text

/-- The text between two byte offsets. Nothing unless both are character boundaries, in this order. -/
def slice? (text : List Char) (start stop : Nat) : Option (List Char) :=
  if start ≤ stop then
    (dropBytes text start).bind fun tail =>
      (dropBytes text stop).map fun rest => tail.take (tail.length - rest.length)
  else none

def findByte? (c : Char) (text : List Char) : Option Nat :=
  (cutAt? c text).map fun parts => byteLength parts.1

theorem slice?_eq_some_iff {text span : List Char} {start stop : Nat} :
    slice? text start stop = some span ↔
      ∃ before after, text = before ++ span ++ after ∧ start = byteLength before ∧
        stop = start + byteLength span := by
  constructor
  · intro cut
    unfold slice? at cut
    split at cut
    · rename_i order
      obtain ⟨tail, begins, cut⟩ := Option.bind_eq_some_iff.1 cut
      obtain ⟨after, ends, rfl⟩ := Option.map_eq_some_iff.1 cut
      have further := dropBytes_add begins (stop - start)
      rw [Nat.add_sub_cancel' order, ends] at further
      obtain ⟨span, rfl, size⟩ := dropBytes_eq_some_iff.1 further.symm
      obtain ⟨before, rfl, rfl⟩ := dropBytes_eq_some_iff.1 begins
      refine ⟨before, after, ?_, rfl, ?_⟩
      · simp
      · simp
        omega
    · cases cut
  · rintro ⟨before, after, rfl, rfl, rfl⟩
    have tail : dropBytes (before ++ span ++ after) (byteLength before) = some (span ++ after) := by
      rw [List.append_assoc, dropBytes_byteLength]
    have rest : dropBytes (before ++ span ++ after) (byteLength before + byteLength span) =
        some after := by
      rw [← byteLength_append, dropBytes_byteLength]
    unfold slice?
    rw [if_pos (Nat.le_add_right _ _), tail, rest]
    simp

theorem findByte?_of_not_mem {c : Char} {text : List Char} (absent : c ∉ text) :
    findByte? c text = none := by
  rw [findByte?, cutAt?_eq_none_iff.2 absent, Option.map_none]

theorem findByte?_append {c : Char} {before : List Char} (free : c ∉ before) (after : List Char) :
    findByte? c (before ++ c :: after) = some (byteLength before) := by
  rw [findByte?, cutAt?_append free, Option.map_some]

end Text

namespace Inline

namespace State

variable {s : State} {before span rest : List Char}

theorem LiesBetween.pushFor (lies : s.LiesBetween before (span ++ rest)) (token : Token) :
    (s.pushFor token span).LiesBetween (before ++ span) rest := by
  obtain ⟨split, size⟩ := lies
  refine ⟨?_, ?_⟩
  · rw [pushFor_source, split, List.append_assoc]
  · rw [pushFor_position, size, Text.byteLength_append]

theorem pushFor_nodes (s : State) (token : Token) (span : List Char) :
    (s.pushFor token span).nodes = s.nodes ++ [.token token] := by
  unfold nodes
  rw [pushFor_newest, List.reverse_cons]

/-- No reference opens at the position: it is no boundary of the text, or the text goes on otherwise. -/
theorem not_opens_iff :
    ¬ s.Opens ↔ (¬ ∃ before rest, s.LiesBetween before rest) ∨
      ∃ before rest, s.LiesBetween before rest ∧ ¬ opening <+: rest := by
  constructor
  · intro plain
    by_cases inside : ∃ before rest, s.LiesBetween before rest
    · obtain ⟨before, rest, lies⟩ := inside
      refine .inr ⟨before, rest, lies, ?_⟩
      rintro ⟨inner, rfl⟩
      exact plain ⟨inner, rest?_eq_some_iff.2 ⟨before, lies⟩⟩
    · exact .inl inside
  · rintro (outside | ⟨before, rest, lies, other⟩) ⟨inner, here⟩
    · obtain ⟨before, lies⟩ := rest?_eq_some_iff.1 here
      exact outside ⟨before, _, lies⟩
    · have there := rest?_eq_some_iff.2 ⟨before, lies⟩
      obtain rfl := Option.some.inj (here.symm.trans there)
      exact other (List.prefix_append opening inner)

theorem LiesBetween.opens {inner : List Char} (lies : s.LiesBetween before (opening ++ inner)) :
    s.Opens :=
  ⟨inner, rest?_eq_some_iff.2 ⟨before, lies⟩⟩

theorem LiesBetween.slice? (lies : s.LiesBetween before (span ++ rest)) :
    Text.slice? s.source.toList s.position (s.position + Text.byteLength span) = some span := by
  refine Text.slice?_eq_some_iff.2 ⟨before, rest, ?_, lies.2, rfl⟩
  rw [lies.1, List.append_assoc]

theorem LiesBetween.slice?_after {skipped : List Char}
    (lies : s.LiesBetween before (skipped ++ (span ++ rest))) :
    Text.slice? s.source.toList (s.position + Text.byteLength skipped)
      (s.position + Text.byteLength skipped + Text.byteLength span) = some span := by
  refine Text.slice?_eq_some_iff.2 ⟨before ++ skipped, rest, ?_, ?_, rfl⟩
  · simp [lies.1]
  · simp [lies.2]

theorem LiesBetween.length_eq (lies : s.LiesBetween before rest) :
    s.length = s.position + Text.byteLength rest :=
  (position_add (rest?_eq_some_iff.2 ⟨before, lies⟩)).symm

end State

/-- The reference that opens at the position, cut out of the source by byte offsets. -/
def slicedReference (ctx : Context) (s : State) : Option Step := do
  let source := s.source.toList
  let bodyStart := s.position + Text.byteLength opening
  let inner ← Text.slice? source bodyStart s.length
  match Text.findByte? closing inner with
  | some offset =>
    let body ← Text.slice? source bodyStart (bodyStart + offset)
    let stop := bodyStart + offset + closing.utf8Size
    let run := ctx.resolve (String.ofList body)
    match run.result with
    | .error e => some (.failed e s run.events)
    | .ok (some replacement) =>
      some (.accepted ((s.push ⟨variableKind, replacement⟩).moveTo stop) run.events)
    | .ok none =>
      let whole ← Text.slice? source s.position stop
      some (.accepted ((s.push ⟨variableKind, String.ofList whole⟩).moveTo stop) run.events)
  | none =>
    let whole ← Text.slice? source s.position s.length
    some (.accepted ((s.push ⟨variableKind, String.ofList whole⟩).moveTo s.length)
      [.unterminatedReference s.position])

/-- The rule for variables by byte offsets into the source. Nothing when a slice is not cut between
characters. -/
def slicedCall (ctx : Context) (s : State) (silent : Bool) : Option Step :=
  if silent || ctx.lexicon.isEmpty then some (.declined s)
  else
    match Text.dropBytes s.source.toList s.position with
    | some rest => if opening.isPrefixOf rest then slicedReference ctx s else some (.declined s)
    | none => some (.declined s)

section

variable {ctx : Context} {s : State} {before body inner after : List Char}

theorem slicedCall_of_not_opens (plain : ¬ s.Opens) (silent : Bool) :
    slicedCall ctx s silent = some (.declined s) := by
  unfold slicedCall
  split
  · rfl
  · split
    · rename_i rest here
      refine if_neg fun begins => plain ?_
      obtain ⟨inner, rfl⟩ := List.isPrefixOf_iff_prefix.1 begins
      exact ⟨inner, s.rest?_eq.trans here⟩
    · rfl

theorem slicedCall_of_opens (filled : ctx.lexicon.isEmpty = false) (opens : s.Opens) :
    slicedCall ctx s false = slicedReference ctx s := by
  obtain ⟨inner, here⟩ := opens
  have begins : opening.isPrefixOf (opening ++ inner) = true :=
    List.isPrefixOf_iff_prefix.2 (List.prefix_append opening inner)
  simp only [slicedCall, filled, Bool.or_self, Bool.false_eq_true, if_false, ← s.rest?_eq, here,
    begins, if_true]

theorem slice?_inner (lies : s.LiesBetween before (opening ++ inner)) :
    Text.slice? s.source.toList (s.position + Text.byteLength opening) s.length = some inner := by
  have bounded : s.LiesBetween before (opening ++ (inner ++ [])) := by
    simpa using lies
  rw [lies.length_eq, Text.byteLength_append, ← Nat.add_assoc]
  exact bounded.slice?_after

theorem slicedReference_of_unclosed (lies : s.LiesBetween before (opening ++ inner))
    (endless : closing ∉ inner) :
    slicedReference ctx s =
      some (.accepted
        (s.pushFor ⟨variableKind, String.ofList (opening ++ inner)⟩ (opening ++ inner))
        [.unterminatedReference s.position]) := by
  have whole : Text.slice? s.source.toList s.position s.length = some (opening ++ inner) := by
    have bounded : s.LiesBetween before ((opening ++ inner) ++ []) := by
      simpa using lies
    rw [lies.length_eq]
    exact bounded.slice?
  rw [State.pushFor, ← lies.length_eq]
  simp only [slicedReference, Option.bind_eq_bind, slice?_inner lies, Option.bind_some,
    Text.findByte?_of_not_mem endless, whole]

theorem slicedReference_of_closed (lies : s.LiesBetween before (opening ++ (body ++ closing :: after)))
    (first : closing ∉ body) :
    slicedReference ctx s =
      match (ctx.resolve (String.ofList body)).result with
      | .error e => some (.failed e s (ctx.resolve (String.ofList body)).events)
      | .ok replacement =>
        some (.accepted (s.pushFor
            ⟨variableKind, replacement.getD (String.ofList (opening ++ body ++ [closing]))⟩
            (opening ++ body ++ [closing]))
          (ctx.resolve (String.ofList body)).events) := by
  have stop : s.position + Text.byteLength opening + Text.byteLength body + closing.utf8Size =
      s.position + Text.byteLength (opening ++ body ++ [closing]) := by
    simp [Nat.add_assoc]
  have bounded : s.LiesBetween before ((opening ++ body ++ [closing]) ++ after) := by
    simpa using lies
  simp only [slicedReference, Option.bind_eq_bind, slice?_inner lies, Option.bind_some,
    Text.findByte?_append first, lies.slice?_after, stop, State.pushFor]
  split
  · rename_i found
    rw [found]
  · rename_i found
    rw [found]
    rfl
  · -- The whole reference is cut out only when nothing replaces it.
    rename_i found
    rw [found, bounded.slice?]
    rfl

end

namespace Call

variable {ctx : Context} {s : State} {silent : Bool} {step : Step}

theorem source_eq (call : Call ctx s silent step) : step.state.source = s.source := by
  cases call with
  | silenced | empty | elsewhere | failed => rfl
  | resolved | unclosed => exact s.pushFor_source _ _

theorem declined_iff (call : Call ctx s silent step) :
    step.outcome = .ok false ↔ silent = true ∨ ctx.lexicon.isEmpty = true ∨ ¬ s.Opens := by
  have going (loud : silent = false) (filled : ctx.lexicon.isEmpty = false) (opens : s.Opens) :
      ¬ (silent = true ∨ ctx.lexicon.isEmpty = true ∨ ¬ s.Opens) := by
    simp [loud, filled, opens]
  cases call with
  | silenced quiet => exact iff_of_true rfl (.inl quiet)
  | empty nothing => exact iff_of_true rfl (.inr (.inl nothing))
  | elsewhere plain => exact iff_of_true rfl (.inr (.inr plain))
  -- The other ways lead through a reference.
  | failed loud filled lies => exact iff_of_false nofun (going loud filled lies.opens)
  | resolved loud filled lies => exact iff_of_false nofun (going loud filled lies.opens)
  | unclosed loud filled lies => exact iff_of_false nofun (going loud filled lies.opens)

theorem eq_declined (call : Call ctx s silent step) (declines : step.outcome = .ok false) :
    step = .declined s := by
  cases call with
  | silenced | empty | elsewhere => rfl
  | failed | resolved | unclosed => cases declines

theorem slicedCall_eq (call : Call ctx s silent step) : slicedCall ctx s silent = some step := by
  cases call with
  | silenced quiet =>
    subst quiet
    rfl
  | empty nothing => simp [slicedCall, nothing]
  | elsewhere plain => exact slicedCall_of_not_opens plain silent
  | failed loud filled lies first fatal =>
    subst loud
    rw [slicedCall_of_opens filled lies.opens, slicedReference_of_closed lies first, fatal]
  | resolved loud filled lies first yields =>
    subst loud
    rw [slicedCall_of_opens filled lies.opens, slicedReference_of_closed lies first, yields]
  | unclosed loud filled lies endless =>
    subst loud
    rw [slicedCall_of_opens filled lies.opens, slicedReference_of_unclosed lies endless]

theorem of_error {e : ReferenceError} (call : Call ctx s silent step)
    (fails : step.outcome = .error e) :
    step.state = s ∧ ∃ before body after,
      s.LiesBetween before (opening ++ (body ++ closing :: after)) ∧ closing ∉ body ∧
        (ctx.resolve (String.ofList body)).result = .error e := by
  cases call with
  | silenced | empty | elsewhere | resolved | unclosed => cases fails
  | failed loud filled lies first fatal =>
    cases fails
    exact ⟨rfl, _, _, _, lies, first, fatal⟩

end Call

/-- The call moves the position over `span` and appends one token in its place. -/
structure Step.Replaces (step : Step) (s : State) (before span rest : List Char) (content : String) :
    Prop where
  start : s.LiesBetween before (span ++ rest)
  stop : step.state.LiesBetween (before ++ span) rest
  nodes : step.state.nodes = s.nodes ++ [.token ⟨"variables_renderer", content⟩]

theorem Step.replaces_pushFor {s : State} {before span rest : List Char}
    (lies : s.LiesBetween before (span ++ rest)) (content : String) (events : List Event) :
    (Step.accepted (s.pushFor ⟨variableKind, content⟩ span) events).Replaces s before span rest
      content :=
  ⟨lies, lies.pushFor _, s.pushFor_nodes _ span⟩

theorem Call.of_accepted {ctx : Context} {s : State} {silent : Bool} {step : Step}
    (call : Call ctx s silent step) (accepts : step.outcome = .ok true) :
    (∃ before body after replacement, closing ∉ body ∧
      (ctx.resolve (String.ofList body)).result = .ok replacement ∧
      step.Replaces s before (opening ++ body ++ [closing]) after
        (replacement.getD (String.ofList (opening ++ body ++ [closing])))) ∨
    ∃ before inner, closing ∉ inner ∧
      step.Replaces s before (opening ++ inner) [] (String.ofList (opening ++ inner)) := by
  cases call with
  | silenced | empty | elsewhere | failed => cases accepts
  | @resolved before body after replacement loud filled lies first yields =>
    refine .inl ⟨before, body, after, replacement, first, yields, Step.replaces_pushFor ?_ _ _⟩
    simpa using lies
  | @unclosed before inner loud filled lies endless =>
    refine .inr ⟨before, inner, endless, Step.replaces_pushFor ?_ _ _⟩
    simpa using lies

/-- Every slice that a call takes is cut between characters, whatever the position. The call declines
exactly in silent mode, without entries, or where no reference opens. It changes the state only when
it accepts. -/
theorem variableRule_calls (ctx : Context) (s : State) (silent : Bool) :
    slicedCall ctx s silent = some (variableRule ctx s silent) ∧
    (variableRule ctx s silent).state.source = s.source ∧
    ((variableRule ctx s silent).outcome = .ok false ↔
      silent = true ∨ ctx.lexicon.isEmpty = true ∨
      (¬ ∃ before rest, s.LiesBetween before rest) ∨
      ∃ before rest, s.LiesBetween before rest ∧ ¬ opening <+: rest) ∧
    ((variableRule ctx s silent).outcome = .ok false → (variableRule ctx s silent).state = s) ∧
    (∀ e, (variableRule ctx s silent).outcome = .error e →
      (variableRule ctx s silent).state = s ∧ ∃ before body after,
        s.LiesBetween before (opening ++ (body ++ closing :: after)) ∧ closing ∉ body ∧
          (ctx.resolve (String.ofList body)).result = .error e) ∧
    ((variableRule ctx s silent).outcome = .ok true →
      (∃ before body after replacement, closing ∉ body ∧
        (ctx.resolve (String.ofList body)).result = .ok replacement ∧
        (variableRule ctx s silent).Replaces s before (opening ++ body ++ [closing]) after
          (replacement.getD (String.ofList (opening ++ body ++ [closing])))) ∨
      ∃ before inner, closing ∉ inner ∧
        (variableRule ctx s silent).Replaces s before (opening ++ inner) []
          (String.ofList (opening ++ inner))) := by
  have call := variableRule_call ctx s silent
  refine ⟨call.slicedCall_eq, call.source_eq, ?_, ?_, ?_, call.of_accepted⟩
  · rw [call.declined_iff, State.not_opens_iff]
  · intro declines
    rw [call.eq_declined declines]
    rfl
  · intro e fails
    exact call.of_error fails

private def midText : State :=
  .atPosition "é#\x7bgreeting\x7d!" 2 [.text "é"]

private def insideCharacter : State :=
  .atPosition "é#\x7bgreeting\x7d!" 1 []

private def strictContext : Context :=
  { greetingContext with policy := ⟨.error, false, .recorder 0⟩ }

private def unknownKey : State :=
  .atPosition "#\x7bnobody\x7d" 0 []

theorem variableRule_calls_greeting :
    (variableRule greetingContext insideCharacter false).outcome = .ok false ∧
    (variableRule greetingContext insideCharacter false).state = insideCharacter ∧
    (variableRule strictContext unknownKey false).outcome = .error (.unknownVariable "nobody") ∧
    (variableRule strictContext unknownKey false).state = unknownKey ∧
    (variableRule greetingContext midText false).outcome = .ok true ∧
    ((∃ before body after replacement, closing ∉ body ∧
        (greetingContext.resolve (String.ofList body)).result = .ok replacement ∧
        (variableRule greetingContext midText false).Replaces midText before
          (opening ++ body ++ [closing]) after
          (replacement.getD (String.ofList (opening ++ body ++ [closing])))) ∨
      ∃ before inner, closing ∉ inner ∧
        (variableRule greetingContext midText false).Replaces midText before (opening ++ inner) []
          (String.ofList (opening ++ inner))) := by
  obtain ⟨-, -, -, declines, -, -⟩ := variableRule_calls greetingContext insideCharacter false
  obtain ⟨-, -, -, -, fails, -⟩ := variableRule_calls strictContext unknownKey false
  obtain ⟨-, -, -, -, -, accepts⟩ := variableRule_calls greetingContext midText false
  exact ⟨rfl, declines rfl, rfl, (fails (.unknownVariable "nobody") rfl).1, rfl, accepts rfl⟩

end Inline

end InlineVariables
