import InlineVariables.Toml.Marker
import InlineVariables.Toml.ValueText.Reader

/-!
Documents: their lines, and the table that the lines build.
-/

namespace InlineVariables.Toml

/-- A line with content: an entry, the header of a table, or the header of the next table of an
array. -/
inductive Line where
  | entry (path : KeyPath) (value : Value)
  | header (path : KeyPath)
  | element (path : KeyPath)

def readHeader (text : List Char) : Option (Line × List Char) :=
  match text with
  | '[' :: rest =>
    match readKeyPath rest with
    | some (path, ']' :: ']' :: after) => some (.element path, after)
    | _ => none
  | _ =>
    match readKeyPath text with
    | some (path, ']' :: after) => some (.header path, after)
    | _ => none

/-- Reads a line with content, up to and with its end. -/
def readLine (text : List Char) : Option (Line × List Char) :=
  let content :=
    match text with
    | '[' :: rest => readHeader rest
    | _ => (readEntry readValue text).map fun ((path, value), after) => (.entry path value, after)
  match content with
  | none => none
  | some (line, after) => (lineEnd? after).map fun rest => (line, rest)

/-- Reads all lines and leaves out those without content. -/
def readLines (text : List Char) : Option (List Line) :=
  match dropBlanks text with
  | [] => some []
  | start =>
    match lineEnd? start with
    | some rest => if rest.length < text.length then readLines rest else none
    | none =>
      match readLine start with
      | some (line, rest) =>
        if rest.length < text.length then (readLines rest).map (line :: ·) else none
      | none => none
termination_by text.length

/-- A document under construction: its outermost table and the keys of the last header. -/
structure Draft where
  root : OpenTable
  current : List String

namespace Draft

def empty : Draft := ⟨[], []⟩

/-- Adds a line. Entries go into the table of the last header. -/
def add (draft : Draft) : Line → Option Draft
  | .entry path value =>
    (OpenTable.alter false (fun _ t => t.addEntry path value) .header draft.current
      draft.root).map fun root => { draft with root := root }
  | .header path => (draft.root.openTable path).map fun root => ⟨root, path.toList⟩
  | .element path => (draft.root.openElement path).map fun root => ⟨root, path.toList⟩

def addAll : Draft → List Line → Option Draft
  | draft, [] => some draft
  | draft, line :: lines =>
    match draft.add line with
    | some draft => draft.addAll lines
    | none => none

end Draft

/-- The text without a byte order mark at its beginning. -/
def dropByteOrderMark : List Char → List Char
  | '\ufeff' :: rest => rest
  | text => text

/-- The table of a document as it is written. -/
def readEntriesOf (text : String) : Option Table :=
  match readLines (dropByteOrderMark text.toList) with
  | none => none
  | some lines => (Draft.empty.addAll lines).map fun draft => OpenTable.close draft.root

def readDocument (text : String) : Option Table :=
  match readEntriesOf text with
  | none => none
  | some t => (t.restore .document).toOption

end InlineVariables.Toml
