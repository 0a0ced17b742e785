import InlineVariables.Text.Pieces

/-!
References to variables: a key and the modifiers asked for, separated by bars.
-/

namespace InlineVariables

/-- A change to the shown form of a variable: its short form, or a link around it. -/
inductive Modifier where
  | abbr | link
  deriving DecidableEq, Repr

namespace Modifier

def text : Modifier → String
  | .abbr => "abbr"
  | .link => "link"

/-- The modifier a token asks for, by name or by sign. -/
def ofToken? (token : String) : Option Modifier :=
  if token = "abbr" ∨ token = "-" then some .abbr
  else if token = "link" ∨ token = "#" then some .link
  else none

end Modifier

/-- The body of a reference: a key and the tokens that follow it, known or not. -/
structure Reference where
  key : String
  modifiers : List String
  deriving DecidableEq, Repr

namespace Reference

def separator : Char := '|'

/-- Reads the body of a reference. Every text is one. -/
def ofBody (body : String) : Reference :=
  let (key, modifiers) := Text.pieces separator body.toList
  ⟨String.ofList key, modifiers.map String.ofList⟩

/-- The body that a reference is read from. -/
def body (r : Reference) : String :=
  String.ofList (Text.joinWith separator r.key.toList (r.modifiers.map String.toList))

def hasModifiers (r : Reference) : Bool :=
  !r.modifiers.isEmpty

/-- Whether some token asks for this modifier. -/
def has (r : Reference) (modifier : Modifier) : Bool :=
  r.modifiers.any fun token => Modifier.ofToken? token = some modifier

end Reference

end InlineVariables
