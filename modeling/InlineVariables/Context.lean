import InlineVariables.Lexicon
import InlineVariables.Options
import InlineVariables.Run

/-!
Contexts: a lexicon with the policy for problems of references. A context is built once from options
and never changes.
-/

namespace InlineVariables

/-- What is done with a problem of a reference. -/
structure Policy where
  severity : Severity
  ignoreMissing : Bool
  diagnostics : Diagnostics
  deriving DecidableEq, Repr

/-- Reports a problem, drops it, or fails with it. A variable that is missing and may be missing is
always reported, whatever the severity. -/
def Policy.raise (policy : Policy) (e : ReferenceError) : Run ReferenceError Unit :=
  if policy.ignoreMissing && e.isMissing then .report (.warning policy.diagnostics e)
  else
    match policy.severity with
    | .error => .fail e
    | .silent => .ok ()
    | .warn => .report (.warning policy.diagnostics e)

/-- What references are resolved against. -/
structure Context where
  lexicon : Lexicon
  policy : Policy
  className : Option String
  deriving DecidableEq, Repr

/-- Why a context cannot be built. -/
inductive ContextError where
  | missingConfiguration
  | rejected (e : ReferenceError)
  deriving DecidableEq, Repr

def programName : String := "markup-vars"

def ContextError.message : ContextError → String
  | .missingConfiguration =>
    "tried to use \"" ++ programName ++ "\" without specifying any variable"
  | .rejected e => e.message

namespace Context

def policyOf (options : Options) (diagnostics : Diagnostics) : Policy :=
  ⟨options.severity, options.ignoreMissing, diagnostics⟩

/-- Builds a context. There must be options with at least one entry of data; entries that are no
variables are raised by the policy of the options. -/
def build (options : Option Options) (diagnostics : Diagnostics) : Run ContextError Context :=
  match options with
  | none => .fail .missingConfiguration
  | some options =>
    if options.data.isEmpty then .fail .missingConfiguration
    else do
      let policy := policyOf options diagnostics
      let lexicon ← (Lexicon.build policy.raise options.data).mapError .rejected
      Run.report (lexicon.builtEvent options.data)
      return ⟨lexicon, policy, options.className⟩

end Context

end InlineVariables
