import InlineVariables.Text.Pieces

/-!
A tree of files that is read by paths. A directory is there when it is listed or when something lies in
it.
-/

namespace InlineVariables

inductive FileNode where
  | text (content : String)
  | bytes (content : ByteArray)
  | directory

structure FileTree where
  nodes : List (List String × FileNode)

/-- Why a path cannot be followed, or what is there cannot be read as text. -/
inductive ReadFailure where
  | isDirectory | notDirectory | nameTooLong | nulInName | invalidText
  deriving DecidableEq, Repr

def ReadFailure.message : ReadFailure → String
  | .isDirectory => "Is a directory (os error 21)"
  | .notDirectory => "Not a directory (os error 20)"
  | .nameTooLong => "File name too long (os error 36)"
  | .nulInName => "file name contained an unexpected NUL byte"
  | .invalidText => "stream did not contain valid UTF-8"

inductive Reading where
  | absent
  | failed (failure : ReadFailure)
  | text (content : String)
  deriving DecidableEq, Repr

namespace FileTree

/-- The parts of a path between its slashes. -/
def parts (path : String) : List String :=
  let (first, others) := Text.pieces '/' path.toList
  (first :: others).map String.ofList

/-- Whether a part of a path stays where it is. -/
def staysPut (part : String) : Bool :=
  part = "" || part = "."

def ofList (files : List (String × FileNode)) : FileTree :=
  ⟨files.map fun (path, node) => ((parts path).filter (!staysPut ·), node)⟩

/-- What lies at a place. A place that others lie below is a directory, and so is the top. -/
def node? (tree : FileTree) (place : List String) : Option FileNode :=
  match tree.nodes.find? (·.1 == place) with
  | some (_, node) => some node
  | none =>
    if place.isEmpty || tree.nodes.any (fun (path, _) => place.isPrefixOf path) then
      some .directory
    else none

def readNode (tree : FileTree) (place : List String) : Reading :=
  match tree.node? place with
  | none => .absent
  | some .directory => .failed .isDirectory
  | some (.text content) => .text content
  | some (.bytes content) =>
    match String.fromUTF8? content with
    | some text => .text text
    | none => .failed .invalidText

/-- Where a path has led: to a place in the tree, or to a directory that holds the tree somewhere below
it, of which nothing else is known. -/
inductive Position where
  | inside (place : List String)
  | above
  deriving DecidableEq, Repr

def Position.around (place : List String) : Position :=
  if place.isEmpty then .above else .inside place.dropLast

/-- The most bytes that a name may have. -/
def nameLimit : Nat := 255

/-- The most bytes that a path may have. -/
def pathLimit : Nat := 4095

/-- Follows the parts of a path from a position on. Every part but the last must lead to a
directory. -/
def follow (tree : FileTree) : Position → List String → Reading
  | .inside place, [] => tree.readNode place
  | .above, [] => .failed .isDirectory
  | .inside place, part :: rest =>
    match tree.node? place with
    | none => .absent
    | some .directory =>
      if staysPut part then follow tree (.inside place) rest
      else if part = ".." then follow tree (.around place) rest
      else if nameLimit < part.utf8ByteSize then .failed .nameTooLong
      else follow tree (.inside (place ++ [part])) rest
    | some _ => .failed .notDirectory
  | .above, part :: rest =>
    if staysPut part ∨ part = ".." then follow tree .above rest
    else if nameLimit < part.utf8ByteSize then .failed .nameTooLong
    else .absent

/-- Reads the file at a path. Nothing lies at the empty path; a path that begins with a slash starts
above the tree. -/
def read (tree : FileTree) (path : String) : Reading :=
  if path.toList.contains '\x00' then .failed .nulInName
  else if path = "" then .absent
  else if pathLimit < path.utf8ByteSize then .failed .nameTooLong
  else
    match parts path with
    | "" :: rest => tree.follow .above rest
    | parts => tree.follow (.inside []) parts

end FileTree

end InlineVariables
