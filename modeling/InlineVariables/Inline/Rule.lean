import InlineVariables.Inline.State
import InlineVariables.Resolve

/-!
Inline rules, the contract between a rule and its host, and the rule for variable references.
-/

namespace InlineVariables.Inline

/-- What one call of a rule does: it accepts (true), declines (false) or fails, leaves a state, and
reports events. -/
structure Step where
  outcome : Except ReferenceError Bool
  state : State
  events : List Event

/-- A rule looks at the text at the position. In silent mode it must not push tokens. -/
abbrev Rule := State → (silent : Bool) → Step

namespace Step

/-- The rule does not apply; nothing changes. -/
def declined (s : State) : Step :=
  ⟨.ok false, s, []⟩

def accepted (s : State) (events : List Event) : Step :=
  ⟨.ok true, s, events⟩

def failed (e : ReferenceError) (s : State) (events : List Event) : Step :=
  ⟨.error e, s, events⟩

end Step

/-- The state `t` follows `s` on the same text: it lies strictly further, at a character boundary of
the text, and has only tokens added. -/
def State.Follows (s t : State) : Prop :=
  t.source = s.source ∧ s.position < t.position ∧ t.rest?.isSome = true ∧
    ∃ pushed : List Token, t.newest = pushed.map .token ++ s.newest

/-- What a host relies on: at a character boundary before the end, a rule that declines leaves the
state as it was, and one that accepts leaves a state that follows it. -/
def Rule.Honours (rule : Rule) : Prop :=
  ∀ s : State, s.rest?.isSome = true → 0 < s.remaining →
    ((rule s false).outcome = .ok false → (rule s false).state = s) ∧
    ((rule s false).outcome = .ok true → s.Follows (rule s false).state)

def variableKind : String := "variables_renderer"

/-- The sign after which the body of a reference begins. -/
def opening : List Char := ['#', '{']

def closing : Char := '}'

/-- Replaces the reference at the position by the variable it names. A reference that does not
resolve stays as it is written, and so does the rest of the text after an opening that is never
closed. -/
def variableRule (ctx : Context) : Rule := fun s silent =>
  if silent || ctx.lexicon.isEmpty then .declined s
  else
    match s.rest?.bind fun rest => (Text.after? opening rest).map fun inner => (rest, inner) with
    | none => .declined s
    | some (rest, inner) =>
      match Text.cutAt? closing inner with
      | none =>
        .accepted ((s.push ⟨variableKind, String.ofList rest⟩).moveTo s.length)
          [.unterminatedReference s.position]
      | some (body, _) =>
        let whole := opening ++ body ++ [closing]
        let run := ctx.resolve (String.ofList body)
        match run.result with
        | .error e => .failed e s run.events
        | .ok replacement =>
          .accepted
            ((s.push ⟨variableKind, replacement.getD (String.ofList whole)⟩).moveTo
              (s.position + Text.byteLength whole))
            run.events

end InlineVariables.Inline
