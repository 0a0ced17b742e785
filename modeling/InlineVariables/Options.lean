import InlineVariables.Severity
import InlineVariables.Toml.Value

/-!
Options: the data table and three settings.
-/

namespace InlineVariables

structure Options where
  data : Toml.Table := []
  severity : Severity := .warn
  /-- Whether a missing variable is only ever reported. -/
  ignoreMissing : Bool := false
  /-- The class of the element put around every replacement. -/
  className : Option String := none
  deriving Repr, Inhabited

end InlineVariables
