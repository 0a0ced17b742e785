import InlineVariables.Context
import InlineVariables.Options.Loader

/-!
All failures of the library in one type.
-/

namespace InlineVariables

/-- A failure to load options, or one of a context or a reference. -/
inductive Error where
  | options (e : LoadError)
  | reference (e : ReferenceError)
  | missingConfiguration
  deriving DecidableEq, Repr

def Error.message : Error → String
  | .options e => "options error: " ++ e.message
  | .reference e => e.message
  | .missingConfiguration => ContextError.missingConfiguration.message

def Error.ofContext : ContextError → Error
  | .missingConfiguration => .missingConfiguration
  | .rejected e => .reference e

end InlineVariables
