import InlineVariables.Event
import InlineVariables.Variable

/-!
The lexicon: the variables of a data table by their keys. Entries that are no variables are handed
to a handler of the caller, who may stop the build.
-/

namespace InlineVariables

structure Lexicon where
  entries : Assoc Variable
  deriving DecidableEq, Repr

namespace Lexicon

def empty : Lexicon := ⟨[]⟩

def get? (lexicon : Lexicon) (key : String) : Option Variable :=
  Assoc.get? lexicon.entries key

def contains (lexicon : Lexicon) (key : String) : Bool :=
  Assoc.contains lexicon.entries key

def size (lexicon : Lexicon) : Nat :=
  lexicon.entries.length

def isEmpty (lexicon : Lexicon) : Bool :=
  lexicon.entries.isEmpty

def insert (lexicon : Lexicon) (key : String) (found : Variable) : Lexicon :=
  ⟨Assoc.insert lexicon.entries key found⟩

/-- Adds the variables of a table to a lexicon, entry after entry, and hands what is no variable to
`raise`. -/
def extend {m : Type → Type} [Monad m] (raise : ReferenceError → m Unit) :
    Lexicon → Toml.Table → m Lexicon
  | lexicon, [] => pure lexicon
  | lexicon, (key, value) :: rest =>
    match Variable.ofValue key value with
    | .ok found => extend raise (lexicon.insert key found) rest
    | .error e => do
      raise e
      extend raise lexicon rest

/-- The lexicon of a table. -/
def build {m : Type → Type} [Monad m] (raise : ReferenceError → m Unit) (data : Toml.Table) :
    m Lexicon :=
  extend raise empty data

def builtEvent (lexicon : Lexicon) (data : Toml.Table) : Event :=
  .lexiconBuilt lexicon.size (data.length - lexicon.size)

end Lexicon

end InlineVariables
