import InlineVariables.Toml.KeyPath
import InlineVariables.Toml.Value

/-!
Tables under construction. Lines of a document and entries of an inline table extend them; how a
table came about decides what may still be added to it.
-/

namespace InlineVariables.Toml

/-- How a table came about: implied by a header of a table inside it, by a dotted key, or by a header
of its own. -/
inductive Origin where
  | implied | dotted | header
  deriving DecidableEq, Repr

/-- A finished value, an open table, or an array of tables, of which the current one is open and the
earlier ones are kept with the newest first. -/
inductive OpenNode where
  | closed (value : Value)
  | table (origin : Origin) (entries : List (String × OpenNode))
  | tables (current : List (String × OpenNode)) (earlier : List (List (String × OpenNode)))

abbrev OpenTable := Assoc OpenNode

namespace OpenTable

/-- Follows keys into tables and makes the tables that are missing. A dotted key must not enter a table
that has a header. -/
def alter (dotted : Bool) (change : Origin → OpenTable → Option OpenTable) :
    Origin → List String → OpenTable → Option OpenTable
  | origin, [], t => change origin t
  | _, key :: path, t =>
    match Assoc.get? t key with
    | none =>
      let origin := if dotted then .dotted else .implied
      (alter dotted change origin path []).map fun inner =>
        Assoc.insert t key (.table origin inner)
    | some (.closed _) => none
    | some (.table origin inner) =>
      if dotted && origin == .header then none
      else (alter dotted change origin path inner).map fun inner =>
        Assoc.insert t key (.table origin inner)
    | some (.tables current earlier) =>
      (alter dotted change .header path current).map fun current =>
        Assoc.insert t key (.tables current earlier)

/-- Adds an entry under a dotted key. The key must be new, and the table it goes into must be the table
itself or one that dotted keys have made. -/
def addEntry (t : OpenTable) (path : KeyPath) (value : Value) : Option OpenTable :=
  alter true
    (fun origin inner =>
      if (path.parents = [] ∨ origin = .dotted) ∧ !Assoc.contains inner path.key then
        some (Assoc.insert inner path.key (.closed value))
      else none)
    .header path.parents t

/-- Opens a table by a header. A table that headers have only implied so far takes the last place in
the table around it. -/
def openTable (t : OpenTable) (path : KeyPath) : Option OpenTable :=
  alter false
    (fun _ inner =>
      match Assoc.get? inner path.key with
      | none => some (Assoc.insert inner path.key (.table .header []))
      | some (.table .implied entries) =>
        some (Assoc.insert (Assoc.erase inner path.key) path.key (.table .header entries))
      | some _ => none)
    .header path.parents t

def openElement (t : OpenTable) (path : KeyPath) : Option OpenTable :=
  alter false
    (fun _ inner =>
      match Assoc.get? inner path.key with
      | none => some (Assoc.insert inner path.key (.tables [] []))
      | some (.tables current earlier) =>
        some (Assoc.insert inner path.key (.tables [] (current :: earlier)))
      | some _ => none)
    .header path.parents t

def addEntries : OpenTable → List (KeyPath × Value) → Option OpenTable
  | t, [] => some t
  | t, (path, value) :: rest =>
    match addEntry t path value with
    | some t => addEntries t rest
    | none => none

end OpenTable

mutual

def OpenNode.close : OpenNode → Value
  | .closed value => value
  | .table _ entries => .table (OpenTable.close entries)
  | .tables current earlier =>
    .array (OpenTable.closeAll earlier [.table (OpenTable.close current)])

def OpenTable.close : List (String × OpenNode) → List (String × Value)
  | [] => []
  | (key, node) :: rest => (key, node.close) :: OpenTable.close rest

/-- The finished tables, given with the newest first, in front of other values. -/
def OpenTable.closeAll : List (List (String × OpenNode)) → List Value → List Value
  | [], others => others
  | entries :: rest, others =>
    OpenTable.closeAll rest (.table (OpenTable.close entries) :: others)

end

end InlineVariables.Toml
