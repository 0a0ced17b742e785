/-!
HTML elements. Nothing is escaped.
-/

namespace InlineVariables.Markup

/-- Attributes, each after a blank, with their values in quotes. -/
def attributesText : List (String × String) → String
  | [] => ""
  | (name, value) :: rest => " " ++ name ++ "=\"" ++ value ++ "\"" ++ attributesText rest

def element (name : String) (attributes : List (String × String)) (content : String) : String :=
  "<" ++ name ++ attributesText attributes ++ ">" ++ content ++ "</" ++ name ++ ">"

/-- A short form with its full form as title. -/
def abbr (title short : String) : String :=
  element "abbr" [("title", title)] short

def link (href content : String) : String :=
  element "a" [("href", href)] content

def span (className content : String) : String :=
  element "span" [("class", className)] content

end InlineVariables.Markup
