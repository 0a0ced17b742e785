import InlineVariables.Inline.Action

/-!
Installation of the rule for variables in a host. A context is built before anything is registered, and what
a registration does to the host it does only then.
-/

namespace InlineVariables.Inline

def variableRuleName : String := "variables_rule"

/-- Installs the rule and the hook of a context. The content of its tokens is final. -/
def PlainHost.installContext (host : PlainHost) (ctx : Context) : PlainHost :=
  (host.addHook variableKind Token.content).addRule variableRuleName (variableRule ctx)

namespace Action

/-- Builds a context from options and registers it. -/
def registerContext (options : Option Options) (diagnostics : Diagnostics)
    (register : PlainHost → Context → PlainHost) : Action ContextError Context := do
  let ctx ← ask fun _ => Context.build options diagnostics
  change (register · ctx)
  return ctx

def install (options : Option Options) (diagnostics : Diagnostics) : Action ContextError Context :=
  registerContext options diagnostics PlainHost.installContext

variable {options : Option Options} {diagnostics : Diagnostics}
  {register : PlainHost → Context → PlainHost}

theorem run_registerContext (host : PlainHost) :
    (registerContext options diagnostics register host).run = Context.build options diagnostics :=
  Run.andThen_pure _

theorem host_registerContext_of_ok {ctx : Context}
    (built : (Context.build options diagnostics).result = .ok ctx) (host : PlainHost) :
    (registerContext options diagnostics register host).host = register host ctx :=
  host_andThen_of_ok _ built

theorem host_registerContext_of_error {e : ContextError}
    (fails : (Context.build options diagnostics).result = .error e) (host : PlainHost) :
    (registerContext options diagnostics register host).host = host :=
  host_andThen_of_error _ fails

end Action

end InlineVariables.Inline
