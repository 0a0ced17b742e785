import InlineVariables.FileTree
import InlineVariables.Options.Decode
import InlineVariables.Options.Environment
import InlineVariables.Run
import InlineVariables.Toml.Document

/-!
Loading of options from several sources. The entries of all sources are merged into one table in order
of registration, later ones over earlier ones, and the table is decoded once.
-/

namespace InlineVariables

inductive LoadError where
  | fileNotFound (path : String)
  | unreadable (path : String) (failure : ReadFailure)
  | malformed (path : String)
  | dataNotTable (path typeName : String)
  | undecodable (e : DecodeError)
  | invalidSeverity (text : String)
  deriving DecidableEq, Repr

def LoadError.message : LoadError → String
  | .fileNotFound path => "required options file not found: " ++ path
  | .unreadable path failure =>
    "failed to read options file '" ++ path ++ "': " ++ failure.message
  | .malformed path => "failed to parse options file '" ++ path ++ "'"
  | .dataNotTable path typeName =>
    "'data' in options file '" ++ path ++ "' must be a table of variables, found " ++ typeName
  | .undecodable e => "failed to deserialize options: " ++ e.message
  | .invalidSeverity text =>
    "invalid severity '" ++ text ++ "' (expected one of: error, warn, silent)"

def Severity.parse (name : String) : Except LoadError Severity :=
  match Severity.ofText? name with
  | some severity => .ok severity
  | none => .error (.invalidSeverity name)

/-- What sources read from: files and environment variables. -/
structure Surroundings where
  files : FileTree
  settings : List (String × String)

/-- Where entries come from: a file, the environment, or anything else that yields entries or
fails. -/
inductive Source where
  | file (path : String) (required : Bool)
  | environment (env : Environment)
  | custom (entries : Except LoadError (List Entry))

namespace Source

/-- The entry of a document: the whole table. Data that is no table is refused. -/
def documentEntries (path : String) (table : Toml.Table) : Run LoadError (List Entry) :=
  match Assoc.get? table Environment.dataName with
  | some (.table data) => do
    Run.report (.fileLoaded path data.length)
    return [.root table]
  | some other => .fail (.dataNotTable path other.typeName)
  | none => do
    Run.report (.fileWithoutData path)
    return [.root table]

/-- The entry of a file. Only a file that is not required may be absent. -/
def fileEntries (files : FileTree) (path : String) (required : Bool) :
    Run LoadError (List Entry) :=
  match files.read path with
  | .absent =>
    if required then .fail (.fileNotFound path)
    else do
      Run.report (.fileAbsent path)
      return []
  | .failed failure => .fail (.unreadable path failure)
  | .text content =>
    match Toml.readDocument content with
    | none => .fail (.malformed path)
    | some table => documentEntries path table

def entries (around : Surroundings) : Source → Run LoadError (List Entry)
  | .file path required => fileEntries around.files path required
  | .environment env => .ok (env.entries around.settings)
  | .custom entries => .ofExcept entries

end Source

namespace Options

/-- Merges the entries of sources into a table, source after source. -/
def gather (around : Surroundings) : Toml.Table → List Source → Run LoadError Toml.Table
  | t, [] => .ok t
  | t, source :: sources => do
    let entries ← source.entries around
    gather around (Entry.mergeAll t entries) sources

def load (around : Surroundings) (sources : List Source) : Run LoadError Options := do
  let merged ← gather around [] sources
  Run.ofExcept ((decode .merged merged).mapError .undecodable)

/-- Reads options from a document on its own, nothing when it is malformed or does not fit. -/
def ofDocument? (text : String) : Option Options :=
  match Toml.readEntriesOf text with
  | none => none
  | some table => (decode .document table).toOption

end Options

end InlineVariables
