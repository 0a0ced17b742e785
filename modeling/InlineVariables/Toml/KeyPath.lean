import InlineVariables.Toml.StringText
import InlineVariables.Toml.StringText.Reader

/-!
Keys and dotted keys.
-/

namespace InlineVariables.Toml

/-- The depth that dotted keys and nested values stay below. -/
def depthLimit : Nat := 80

/-- A key inside tables that are named by other keys. -/
structure KeyPath where
  parents : List String
  key : String
  deriving DecidableEq, Repr

def KeyPath.toList (path : KeyPath) : List String :=
  path.parents ++ [path.key]

/-- Reads a key: bare, or a string on one line. -/
def readKey (text : List Char) : Option (String × List Char) :=
  match text with
  | [] => none
  | c :: rest =>
    let quoted :=
      if c = '"' then StringText.readBasic rest
      else if c = '\'' then StringText.readLiteral rest
      else
        let bare := text.takeWhile StringText.isBareKeyChar
        if bare = [] then none else some (bare, text.dropWhile StringText.isBareKeyChar)
    quoted.map fun (key, after) => (String.ofList key, after)

/-- Reads keys separated by dots, with the blanks around each. -/
def readDottedKey (text : List Char) : Option (KeyPath × List Char) :=
  match readKey (dropBlanks text) with
  | none => none
  | some (key, after) =>
    match dropBlanks after with
    | '.' :: rest =>
      if rest.length < text.length then
        (readDottedKey rest).map fun (path, after) => (⟨key :: path.parents, path.key⟩, after)
      else none
    | rest => some (⟨[], key⟩, rest)
termination_by text.length

/-- Reads a dotted key of fewer keys than the depth limit. -/
def readKeyPath (text : List Char) : Option (KeyPath × List Char) :=
  match readDottedKey text with
  | some (path, rest) => if path.toList.length < depthLimit then some (path, rest) else none
  | none => none

end InlineVariables.Toml
