import InlineVariables.Toml.Datetime.Diagnosis
import InlineVariables.Toml.ValueText

/-!
Restoring the values of a table that was exchanged as plain entries. A table whose first key is the
marker stands for a datetime. What becomes of datetimes, and of further entries beside the marker,
depends on where the table comes from.
-/

namespace InlineVariables.Toml

/-- Where a table comes from: the text of a document, or a merge of several tables. -/
inductive Provenance where
  | document | merged
  deriving DecidableEq, Repr

inductive RestoreError where
  | notDatetime (e : DatetimeError)
  | notText (value : Value)
  /-- Of a merged table, entries follow the marker; given is the number of all entries. -/
  | entriesBesideMarker (count : Nat)

/-- A failure and the keys that lead to its place. -/
abbrev Located (ε : Type) := List String × ε

/-- The text of a value under the marker. A datetime of a merged table counts as its text. -/
def markedText? (origin : Provenance) : Value → Option String
  | .string text => some text
  | .datetime d => if origin = .merged then some d.written else none
  | _ => none

/-- The datetime of a table that begins with the marker. -/
def restoreMarked (origin : Provenance) (value : Value) (others : Nat) :
    Except (Located RestoreError) Value :=
  match markedText? origin value with
  | none => .error ([datetimeMarker], .notText value)
  | some text =>
    match Datetime.parse text with
    | .error e => .error ([datetimeMarker], .notDatetime e)
    | .ok d =>
      if origin = .merged ∧ others ≠ 0 then .error ([], .entriesBesideMarker (others + 1))
      else .ok (.datetime d)

mutual

/-- Restores a value. Datetimes of a merged table become text. -/
def Value.restore (origin : Provenance) : Value → Except (Located RestoreError) Value
  | .datetime d => .ok (if origin = .merged then .string d.written else .datetime d)
  | .array items => (Value.restoreItems origin items).map .array
  | .table [] => .ok (.table [])
  | .table ((key, value) :: rest) =>
    if key = datetimeMarker then restoreMarked origin value rest.length
    else
      match value.restore origin with
      | .error (path, e) => .error (key :: path, e)
      | .ok value =>
        (Value.restoreEntries origin rest).map fun entries => .table ((key, value) :: entries)
  | value => .ok value

def Value.restoreItems (origin : Provenance) :
    List Value → Except (Located RestoreError) (List Value)
  | [] => .ok []
  | item :: items =>
    match item.restore origin with
    | .error e => .error e
    | .ok item => (Value.restoreItems origin items).map (item :: ·)

def Value.restoreEntries (origin : Provenance) :
    List (String × Value) → Except (Located RestoreError) (List (String × Value))
  | [] => .ok []
  | (key, value) :: rest =>
    match value.restore origin with
    | .error (path, e) => .error (key :: path, e)
    | .ok value => (Value.restoreEntries origin rest).map ((key, value) :: ·)

end

/-- Restores the values of a table; the marker has no meaning among its own keys. -/
def Table.restore (origin : Provenance) (t : Table) : Except (Located RestoreError) Table :=
  Value.restoreEntries origin t

end InlineVariables.Toml
