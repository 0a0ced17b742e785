/-!
Problems of single variables and references, and their wording.
-/

namespace InlineVariables

inductive ReferenceError where
  | unknownVariable (key : String)
  | unknownVariableType (key found : String)
  | unexpectedModifier (key : String)
  | missingAbbreviation (key : String)
  | missingUrl (key : String)
  deriving DecidableEq, Repr

namespace ReferenceError

def key : ReferenceError → String
  | unknownVariable key => key
  | unknownVariableType key _ => key
  | unexpectedModifier key => key
  | missingAbbreviation key => key
  | missingUrl key => key

def kind : ReferenceError → String
  | unknownVariable _ => "unknown_variable"
  | unknownVariableType _ _ => "unknown_variable_type"
  | unexpectedModifier _ => "unexpected_modifier"
  | missingAbbreviation _ => "missing_abbreviation"
  | missingUrl _ => "missing_url"

/-- Whether the problem is that there is no variable. -/
def isMissing : ReferenceError → Bool
  | unknownVariable _ => true
  | _ => false

def message : ReferenceError → String
  | unknownVariable key =>
    "tried to display variable \"" ++ key ++ "\", but it does not exist in variable list"
  | unknownVariableType key found =>
    "\"" ++ key ++ "\" variable is of unknown type. It should either be:\n" ++
      "- simple (resolve to a simple string)\n" ++
      "- structured (resolve to a table with a \"label\")\n" ++
      "Instead, it appears to be of type \"" ++ found ++ "\""
  | unexpectedModifier key =>
    "tried to apply a modifier on variable \"" ++ key ++ "\" which is a simple variable"
  | missingAbbreviation key =>
    "tried to apply \"abbr\" modifier on \"" ++ key ++ "\" which has no \"abbr\" property"
  | missingUrl key =>
    "tried to apply \"link\" modifier on \"" ++ key ++ "\" which has no \"url\" property"

end ReferenceError

end InlineVariables
