import InlineVariables.Inline.Rule
import InlineVariables.Text.Quoted

/-!
A plain host: it takes its whole input as one stretch of inline text, offers every position to its
rules in order of registration, and copies the characters that no rule claims.
-/

namespace InlineVariables.Inline

abbrev RenderHook := Token → String

/-- Named rules in order of registration, and hooks by the kind of token. -/
structure PlainHost where
  rules : List (String × Rule)
  hooks : Assoc RenderHook

/-- Why a scan ends early. -/
inductive ScanError where
  | reference (e : ReferenceError)
  /-- A rule has broken its contract and the scan makes no progress. -/
  | noProgress
  deriving DecidableEq, Repr

/-- Offers the position to the rules in order. The first that accepts or fails decides. -/
def tryRules : List (String × Rule) → State → Step
  | [], s => .declined s
  | (_, rule) :: others, s =>
    let step := rule s false
    match step.outcome with
    | .ok false =>
      let next := tryRules others step.state
      ⟨next.outcome, next.state, step.events ++ next.events⟩
    | _ => step

/-- Scans to the end of the text. Each round must leave less text to scan. -/
def scanFrom (rules : List (String × Rule)) (s : State) : Run ScanError State :=
  let left := s.remaining
  if left = 0 then .ok s
  else
    match tryRules rules s with
    | ⟨.error e, _, events⟩ => ⟨.error (.reference e), events⟩
    | ⟨.ok accepted, reached, events⟩ =>
      let next := if accepted then reached else reached.advance
      if next.remaining < left then
        let rest := scanFrom rules next
        ⟨rest.result, events ++ rest.events⟩
      else ⟨.error .noProgress, events⟩
termination_by s.remaining

namespace PlainHost

def empty : PlainHost := ⟨[], []⟩

/-- Registers a rule after the others. Names may repeat. -/
def addRule (host : PlainHost) (name : String) (rule : Rule) : PlainHost :=
  { host with rules := host.rules ++ [(name, rule)] }

/-- Registers a hook, in place of an earlier one for the same kind. -/
def addHook (host : PlainHost) (kind : String) (hook : RenderHook) : PlainHost :=
  { host with hooks := Assoc.insert host.hooks kind hook }

def ruleNames (host : PlainHost) : List String :=
  host.rules.map (·.1)

def hasHook (host : PlainHost) (kind : String) : Bool :=
  Assoc.contains host.hooks kind

def scan (host : PlainHost) (source : String) : Run ScanError State :=
  scanFrom host.rules (.start source)

/-- The text of a token: what its hook makes of it, or its content. -/
def tokenText (host : PlainHost) (token : Token) : String :=
  match Assoc.get? host.hooks token.kind with
  | some hook => hook token
  | none => token.content

def nodeText (host : PlainHost) : Node → String
  | .text content => content
  | .token token => host.tokenText token

def nodesText (host : PlainHost) (nodes : List Node) : String :=
  String.join (nodes.map host.nodeText)

@[simp] theorem nodesText_nil (host : PlainHost) : host.nodesText [] = "" := by
  simp [nodesText]

@[simp] theorem nodesText_append (host : PlainHost) (a b : List Node) :
    host.nodesText (a ++ b) = host.nodesText a ++ host.nodesText b := by
  simp [nodesText]

theorem nodesText_tokens (host : PlainHost) (tokens : List Token) :
    host.nodesText (tokens.map .token) = String.join (tokens.map host.tokenText) := by
  rw [nodesText, List.map_map]
  rfl

/-- It does not show in the text whether a character has joined the text node before it. -/
theorem nodesText_copyChar (host : PlainHost) (c : Char) (newest : List Node) :
    host.nodesText (State.copyChar c newest).reverse =
      host.nodesText newest.reverse ++ String.singleton c := by
  unfold State.copyChar
  split
  · simp only [nodesText, List.reverse_cons, List.map_append, List.map_cons, List.map_nil,
      nodeText, String.join_append, String.join_cons, String.join_nil, String.append_empty]
    rw [String.push_eq_append, String.append_assoc]
  · simp [nodesText, nodeText]

/-- Scans a text and puts the result together again. -/
def render (host : PlainHost) (source : String) : Run ScanError String := do
  let s ← host.scan source
  return host.nodesText s.nodes

/-- Scans a text and gives the tokens. -/
def tokenize (host : PlainHost) (source : String) : Run ScanError (List Token) := do
  let s ← host.scan source
  return s.tokens

def describe (host : PlainHost) : String :=
  "PlainHost \x7b rules: " ++ Text.quotedList host.ruleNames ++ ", hooks: " ++
    Text.quotedList (Assoc.keys host.hooks) ++ " \x7d"

end PlainHost

end InlineVariables.Inline
