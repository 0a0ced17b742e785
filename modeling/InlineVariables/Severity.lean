/-!
How serious the problems of single references are taken.
-/

namespace InlineVariables

/-- `error` makes a problem end the rendering, `warn` reports it, `silent` drops it. -/
inductive Severity where
  | error | warn | silent
  deriving DecidableEq, Repr

namespace Severity

instance : Inhabited Severity := ⟨.warn⟩

def text : Severity → String
  | .error => "error"
  | .warn => "warn"
  | .silent => "silent"

/-- The severity with exactly this name. -/
def ofText? (name : String) : Option Severity :=
  if name = "error" then some .error
  else if name = "warn" then some .warn
  else if name = "silent" then some .silent
  else none

theorem ofText?_eq_some_iff {name : String} {severity : Severity} :
    ofText? name = some severity ↔ name = severity.text := by
  constructor
  · intro found
    unfold ofText? at found
    split at found
    · cases found; assumption
    · split at found
      · cases found; assumption
      · split at found
        · cases found; assumption
        · cases found
  · rintro rfl
    cases severity <;> rfl

end Severity

end InlineVariables
