import InlineVariables.Inline.Install

/-!
Commands to a host: registrations, scans and questions. A command leaves a host whether it succeeds or
fails.
-/

namespace InlineVariables.Inline

/-- One command. Contexts are built from options, or from none to see that fail. -/
inductive Command where
  /-- Installs a context whose warnings go to the log. -/
  | install (options : Option Options)
  /-- Installs a context whose warnings go where they are sent. -/
  | installContext (options : Option Options) (diagnostics : Diagnostics)
  /-- Registers the rule of a context under a name, without its hook. -/
  | addVariableRule (name : String) (options : Option Options) (diagnostics : Diagnostics)
  | addRule (name : String) (rule : Rule)
  | addHook (kind : String) (hook : RenderHook)
  | render (source : String)
  | tokenize (source : String)
  | ruleNames
  | hasHook (kind : String)
  | describe

inductive Answer where
  | done
  | size (count : Nat)
  | text (content : String)
  | tokens (tokens : List Token)
  | names (names : List String)
  | flag (value : Bool)
  deriving DecidableEq, Repr

inductive CommandError where
  | context (e : ContextError)
  | scan (e : ScanError)
  deriving DecidableEq, Repr

/-- What a command does. -/
def Command.action : Command → Action CommandError Answer
  | .install options => do
    let ctx ← (Action.install options .log).mapError .context
    return .size ctx.lexicon.size
  | .installContext options diagnostics => do
    let ctx ← (Action.install options diagnostics).mapError .context
    return .size ctx.lexicon.size
  | .addVariableRule name options diagnostics => do
    let register (host : PlainHost) (ctx : Context) := host.addRule name (variableRule ctx)
    let _ ← (Action.registerContext options diagnostics register).mapError .context
    return .done
  | .addRule name rule => do
    Action.change (·.addRule name rule)
    return .done
  | .addHook kind hook => do
    Action.change (·.addHook kind hook)
    return .done
  | .render source => Action.ask fun host => do
    let text ← (host.render source).mapError .scan
    return .text text
  | .tokenize source => Action.ask fun host => do
    let tokens ← (host.tokenize source).mapError .scan
    return .tokens tokens
  | .ruleNames => Action.ask fun host => .ok (.names host.ruleNames)
  | .hasHook kind => Action.ask fun host => .ok (.flag (host.hasHook kind))
  | .describe => Action.ask fun host => .ok (.text host.describe)

namespace PlainHost

def perform (host : PlainHost) (command : Command) : Aftermath CommandError Answer :=
  command.action host

/-- The host after a command, whatever its outcome. -/
def after (host : PlainHost) (command : Command) : PlainHost :=
  (host.perform command).host

/-- The outcomes of commands one after another, and the host after them. -/
def performAll (host : PlainHost) : List Command → List (Run CommandError Answer) × PlainHost
  | [] => ([], host)
  | command :: commands =>
    let aftermath := host.perform command
    let (outcomes, final) := performAll aftermath.host commands
    (aftermath.run :: outcomes, final)

end PlainHost

end InlineVariables.Inline
