import InlineVariables.Options
import InlineVariables.Text.Digits
import InlineVariables.Text.Quoted
import InlineVariables.Toml.Marker

/-!
Decoding of options from a table. Entries are taken in order and the first that does not fit is the
failure; entries with other names are passed over.
-/

namespace InlineVariables

open Toml (Value Table Provenance RestoreError)

inductive Field where
  | data | severity | ignoreMissing | className
  deriving DecidableEq, Repr

namespace Field

def name : Field → String
  | .data => "data"
  | .severity => "severity"
  | .ignoreMissing => "ignore_missing_variables"
  | .className => "class_name"

/-- The part with this name or this other spelling of it. -/
def ofName? (name : String) : Option Field :=
  if name = "data" then some .data
  else if name = "severity" then some .severity
  else if name = "ignore_missing_variables" ∨ name = "ignoreMissingVariables" then
    some .ignoreMissing
  else if name = "class_name" ∨ name = "className" then some .className
  else none

end Field

inductive DecodeCause where
  | duplicateField (field : Field)
  | invalidType (found expected : String)
  | unknownVariant (name : String)
  | noVariant
  | severalVariants
  | payloadNotEmptyTable
  | payloadNotEmptyArray
  | payloadNotTable (typeName : String)
  | notDatetime (e : Toml.DatetimeError)
  | entriesBesideMarker (count : Nat)
  deriving DecidableEq, Repr

/-- A failure to decode, with the keys that lead to its place. -/
structure DecodeError where
  path : List String
  cause : DecodeCause
  deriving DecidableEq, Repr

def DecodeCause.message : DecodeCause → String
  | .duplicateField field => "duplicate field \x60" ++ field.name ++ "\x60"
  | .invalidType found expected => "invalid type: " ++ found ++ ", expected " ++ expected
  | .unknownVariant name =>
    "unknown variant \x60" ++ name ++
      "\x60, expected one of \x60error\x60, \x60warn\x60, \x60silent\x60"
  | .noVariant => "wanted exactly 1 element, found 0 elements"
  | .severalVariants => "wanted exactly 1 element, more than 1 element"
  | .payloadNotEmptyTable => "expected empty table"
  | .payloadNotEmptyArray => "expected empty array"
  | .payloadNotTable typeName => "expected table, found " ++ typeName
  | .notDatetime e => e.message
  | .entriesBesideMarker count =>
    "invalid length " ++ String.ofList (Text.decimalDigits count) ++ ", expected fewer elements in map"

/-- The failure in words, and its place on a line of its own. -/
def DecodeError.message (e : DecodeError) : String :=
  e.cause.message ++ "\n" ++
    (if e.path = [] then "" else "in \x60" ++ ".".intercalate e.path ++ "\x60\n")

namespace Options

/-- What a value is said to be when another type was expected. A datetime of a merged table counts as
its text. -/
def describe (origin : Provenance) : Value → String
  | .boolean b => "boolean \x60" ++ (if b then "true" else "false") ++ "\x60"
  | .integer n => "integer \x60" ++ String.ofList (Text.signedDigits n) ++ "\x60"
  | .float x => "floating point \x60" ++ x.shown ++ "\x60"
  | .string text => "string " ++ Text.quoted text
  | .datetime d =>
    match origin with
    | .merged => "string " ++ Text.quoted d.written
    | .document => "map"
  | .array _ => "sequence"
  | .table _ => "map"

def unexpected {α : Type} (origin : Provenance) (value : Value) (expected : String) :
    Except DecodeError α :=
  .error ⟨[], .invalidType (describe origin value) expected⟩

/-- The cause of a failure to restore a value. -/
def restoreCause (origin : Provenance) : RestoreError → DecodeCause
  | .notDatetime e => .notDatetime e
  | .notText value => .invalidType (describe origin value) "string containing a datetime"
  | .entriesBesideMarker count => .entriesBesideMarker count

/-- The data table. A datetime of a document counts as the table it is exchanged as. -/
def decodeData (origin : Provenance) (value : Value) : Except DecodeError Table :=
  match origin, value with
  | _, .table entries =>
    match Table.restore origin entries with
    | .ok data => .ok data
    | .error (path, e) => .error ⟨path, restoreCause origin e⟩
  | .document, .datetime d => .ok [(Toml.datetimeMarker, .string d.written)]
  | _, _ => unexpected origin value "a map"

def severityNamed (name : String) : Except DecodeError Severity :=
  match Severity.ofText? name with
  | some severity => .ok severity
  | none => .error ⟨[], .unknownVariant name⟩

/-- Whether a value may stand beside the name of a severity. -/
def checkPayload : Value → Except DecodeError Unit
  | .table [] => .ok ()
  | .array [] => .ok ()
  | .table _ => .error ⟨[], .payloadNotEmptyTable⟩
  | .array _ => .error ⟨[], .payloadNotEmptyArray⟩
  | value => .error ⟨[], .payloadNotTable value.typeName⟩

/-- The severity: its name, or a table with its name as the only key over something empty. -/
def decodeSeverity : Value → Except DecodeError Severity
  | .string name => severityNamed name
  | .table [] => .error ⟨[], .noVariant⟩
  | .table [(name, payload)] => do
    let severity ← severityNamed name
    checkPayload payload
    return severity
  | .table _ => .error ⟨[], .severalVariants⟩
  | _ => .error ⟨[], .invalidType "unit variant" "string only"⟩

def decodeFlag (origin : Provenance) : Value → Except DecodeError Bool
  | .boolean b => .ok b
  | value => unexpected origin value "a boolean"

/-- A text. A datetime of a merged table counts as its text. -/
def decodeText (origin : Provenance) (value : Value) : Except DecodeError String :=
  match origin, value with
  | _, .string text => .ok text
  | .merged, .datetime d => .ok d.written
  | _, _ => unexpected origin value "a string"

structure Parts where
  data : Option Table := none
  severity : Option Severity := none
  ignoreMissing : Option Bool := none
  className : Option String := none

namespace Parts

def has (parts : Parts) : Field → Bool
  | .data => parts.data.isSome
  | .severity => parts.severity.isSome
  | .ignoreMissing => parts.ignoreMissing.isSome
  | .className => parts.className.isSome

def set (origin : Provenance) (parts : Parts) (value : Value) : Field → Except DecodeError Parts
  | .data => (decodeData origin value).map fun data => { parts with data := some data }
  | .severity => (decodeSeverity value).map fun s => { parts with severity := some s }
  | .ignoreMissing => (decodeFlag origin value).map fun b => { parts with ignoreMissing := some b }
  | .className => (decodeText origin value).map fun text => { parts with className := some text }

/-- Decodes an entry; a part given twice is a failure before its value is looked at. -/
def add (origin : Provenance) (parts : Parts) (key : String) (value : Value) :
    Except DecodeError Parts :=
  match Field.ofName? key with
  | none => .ok parts
  | some field =>
    if parts.has field then .error ⟨[], .duplicateField field⟩
    else (parts.set origin value field).mapError fun e => ⟨key :: e.path, e.cause⟩

def addAll (origin : Provenance) : Parts → List (String × Value) → Except DecodeError Parts
  | parts, [] => .ok parts
  | parts, (key, value) :: rest =>
    match parts.add origin key value with
    | .ok parts => addAll origin parts rest
    | .error e => .error e

/-- Options with the defaults for the parts that were not given. -/
def toOptions (parts : Parts) : Options where
  data := parts.data.getD []
  severity := parts.severity.getD .warn
  ignoreMissing := parts.ignoreMissing.getD false
  className := parts.className

end Parts

def decode (origin : Provenance) (t : Table) : Except DecodeError Options :=
  (Parts.addAll origin {} t).map Parts.toOptions

end Options

end InlineVariables
