import InlineVariables.ReferenceError

/-!
What a run reports on the way. Warnings go to the log or to a recorder that keeps them apart; every
other event goes to the log.
-/

namespace InlineVariables

/-- Where warnings go. -/
inductive Diagnostics where
  | log
  | recorder (id : Nat)
  deriving DecidableEq, Repr

inductive Event where
  | warning (target : Diagnostics) (error : ReferenceError)
  | lexiconBuilt (entries rejected : Nat)
  | unterminatedReference (position : Nat)
  | fileLoaded (path : String) (count : Nat)
  | fileWithoutData (path : String)
  | fileAbsent (path : String)
  deriving DecidableEq, Repr

namespace Event

def level : Event → String
  | .warning _ _ => "WARN"
  | _ => "DEBUG"

def message : Event → String
  | .warning _ e => e.message
  | .lexiconBuilt _ _ => "built variable lexicon"
  | .unterminatedReference _ => "unterminated variable reference"
  | .fileLoaded _ _ => "loaded options file"
  | .fileWithoutData _ => "options file declares no variables"
  | .fileAbsent _ => "optional options file not found"

def isLogged : Event → Bool
  | .warning (.recorder _) _ => false
  | _ => true

/-- The warning that an event brings to a recorder. -/
def recorded? (id : Nat) : Event → Option ReferenceError
  | .warning (.recorder n) e => if n = id then some e else none
  | _ => none

end Event

/-- The warnings that a recorder keeps of these events, in order. -/
def recorded (id : Nat) (events : List Event) : List ReferenceError :=
  events.filterMap (Event.recorded? id)

def logged (events : List Event) : List Event :=
  events.filter Event.isLogged

end InlineVariables
