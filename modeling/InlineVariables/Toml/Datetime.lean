import InlineVariables.Text.Digits

/-!
Dates, times and offsets: their normal form, and the reading of one at the beginning of a text.
-/

namespace InlineVariables.Toml

open Text (digitsValue paddedDigits)

structure Date where
  year : Nat
  month : Nat
  day : Nat
  deriving DecidableEq, Repr

/-- A time of the day; the second may be a leap second. -/
structure Time where
  hour : Nat
  minute : Nat
  second : Nat
  nanosecond : Nat
  deriving DecidableEq, Repr

inductive Offset where
  | utc
  | minutes (count : Int)
  deriving DecidableEq, Repr

/-- A day, a time, or both with or without an offset. -/
inductive Datetime where
  | date (day : Date)
  | time (time : Time)
  | dateTime (day : Date) (time : Time) (offset : Option Offset)
  deriving DecidableEq, Repr

def dropTrailingZeros : List Char → List Char
  | [] => []
  | c :: rest =>
    match dropTrailingZeros rest with
    | [] => if c = '0' then [] else [c]
    | kept => c :: kept

def Date.text (d : Date) : List Char :=
  paddedDigits 4 d.year ++ '-' :: paddedDigits 2 d.month ++ '-' :: paddedDigits 2 d.day

def Time.text (t : Time) : List Char :=
  let fraction := dropTrailingZeros (paddedDigits 9 t.nanosecond)
  paddedDigits 2 t.hour ++ ':' :: paddedDigits 2 t.minute ++ ':' :: paddedDigits 2 t.second ++
    (if fraction = [] then [] else '.' :: fraction)

def Offset.text : Offset → List Char
  | .utc => ['Z']
  | .minutes count =>
    (if count < 0 then '-' else '+') ::
      paddedDigits 2 (count.natAbs / 60) ++ ':' :: paddedDigits 2 (count.natAbs % 60)

/-- The normal form: `T` between day and time, `Z` for universal time, no zeros at the end of a
fraction. -/
def Datetime.text : Datetime → List Char
  | .date day => day.text
  | .time clock => clock.text
  | .dateTime day clock offset =>
    day.text ++ 'T' :: clock.text ++ match offset with
      | none => []
      | some offset => offset.text

def Datetime.written (d : Datetime) : String :=
  String.ofList d.text

/-- A number of exactly this many digits, and the text after it. -/
def readDigits : Nat → List Char → Option (Nat × List Char)
  | 0, text => some (0, text)
  | _ + 1, [] => none
  | width + 1, c :: rest =>
    if c.isDigit then
      (readDigits width rest).map fun (n, after) =>
        ((c.toNat - '0'.toNat) * Nat.pow 10 width + n, after)
    else none

/-- The text after a given character. -/
def readChar (c : Char) : List Char → Option (List Char)
  | [] => none
  | d :: rest => if d = c then some rest else none

def daysInMonth (year month : Nat) : Nat :=
  let leap := year % 4 = 0 ∧ (year % 100 ≠ 0 ∨ year % 400 = 0)
  if month = 2 then (if leap then 29 else 28)
  else if month = 4 ∨ month = 6 ∨ month = 9 ∨ month = 11 then 30
  else 31

/-- Reads `YYYY-MM-DD`. -/
def readDate (text : List Char) : Option (Date × List Char) := do
  let (year, text) ← readDigits 4 text
  let text ← readChar '-' text
  let (month, text) ← readDigits 2 text
  let text ← readChar '-' text
  let (day, text) ← readDigits 2 text
  guard (1 ≤ month ∧ month ≤ 12 ∧ 1 ≤ day ∧ day ≤ daysInMonth year month)
  some (⟨year, month, day⟩, text)

/-- Nanoseconds from the digits of a fraction; those after the ninth are dropped. -/
def nanoseconds (digits : List Char) : Nat :=
  let kept := digits.take 9
  digitsValue kept * Nat.pow 10 (9 - kept.length)

/-- Reads an optional fraction of a second. -/
def readFraction : List Char → Option (Nat × List Char)
  | '.' :: rest =>
    let digits := rest.takeWhile Char.isDigit
    if digits = [] then none else some (nanoseconds digits, rest.dropWhile Char.isDigit)
  | text => some (0, text)

/-- Reads `HH:MM`. -/
def readHourMinute (text : List Char) : Option ((Nat × Nat) × List Char) := do
  let (hour, text) ← readDigits 2 text
  let text ← readChar ':' text
  let (minute, text) ← readDigits 2 text
  guard (hour ≤ 23 ∧ minute ≤ 59)
  some ((hour, minute), text)

/-- Reads `HH:MM:SS` with an optional fraction. -/
def readTime (text : List Char) : Option (Time × List Char) := do
  let ((hour, minute), text) ← readHourMinute text
  let text ← readChar ':' text
  let (second, text) ← readDigits 2 text
  guard (second ≤ 60)
  let (nanosecond, text) ← readFraction text
  some (⟨hour, minute, second, nanosecond⟩, text)

/-- Reads an optional offset: `Z`, or a sign with hours and minutes. -/
def readOffset : List Char → Option (Option Offset × List Char)
  | 'Z' :: rest => some (some .utc, rest)
  | 'z' :: rest => some (some .utc, rest)
  | '+' :: rest =>
    (readHourMinute rest).map fun ((hour, minute), after) =>
      (some (.minutes (hour * 60 + minute)), after)
  | '-' :: rest =>
    (readHourMinute rest).map fun ((hour, minute), after) =>
      (some (.minutes (-(hour * 60 + minute : Nat))), after)
  | text => some (none, text)

def readTimeOfDay (text : List Char) : Option ((Time × Option Offset) × List Char) :=
  match text with
  | c :: rest =>
    if c = 'T' ∨ c = 't' ∨ c = ' ' then do
      let (time, rest) ← readTime rest
      let (offset, rest) ← readOffset rest
      some ((time, offset), rest)
    else none
  | [] => none

/-- Reads the longest datetime that the text begins with. -/
def readDatetime (text : List Char) : Option (Datetime × List Char) :=
  match readDate text with
  | some (day, rest) =>
    match readTimeOfDay rest with
    | some ((time, offset), rest) => some (.dateTime day time offset, rest)
    | none => some (.date day, rest)
  | none => (readTime text).map fun (time, rest) => (.time time, rest)

end InlineVariables.Toml
