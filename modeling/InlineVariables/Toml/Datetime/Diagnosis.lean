import InlineVariables.Toml.Datetime

/-!
Reading of a text that must be a datetime as a whole. The text is cut into runs of digits and single
signs; the first that does not fit decides what is said to be wrong. The numbers of a date, a time or
an offset are looked at once all its signs are in their places.
-/

namespace InlineVariables.Toml

open Text (digitsValue)

/-- What a datetime is written with. -/
inductive DatetimeSign where
  | digits (run : List Char)
  | dash | colon | dot | plus | blank | letterT | letterZ
  | other
  deriving DecidableEq, Repr

/-- The part of a datetime that something is wrong with. -/
inductive DatetimePart where
  | whole | date | between | time | offset
  deriving DecidableEq, Repr

inductive DatetimeError where
  /-- Something else stands where this was expected. -/
  | expected (part : DatetimePart) (what : String)
  | leftover
  deriving DecidableEq, Repr

def DatetimePart.text : DatetimePart → String
  | .whole => "datetime"
  | .date => "date"
  | .between => "date-time"
  | .time => "time"
  | .offset => "offset"

def DatetimeError.message : DatetimeError → String
  | .expected part what => "invalid " ++ part.text ++ ", expected " ++ what
  | .leftover => "invalid datetime"

namespace DatetimeSign

/-- The sign that a character other than a digit is. -/
def ofChar (c : Char) : DatetimeSign :=
  if c = '-' then .dash
  else if c = ':' then .colon
  else if c = '.' then .dot
  else if c = '+' then .plus
  else if c = ' ' then .blank
  else if c = 'T' ∨ c = 't' then .letterT
  else if c = 'Z' ∨ c = 'z' then .letterZ
  else .other

def consDigit (c : Char) : List DatetimeSign → List DatetimeSign
  | .digits run :: rest => .digits (c :: run) :: rest
  | signs => .digits [c] :: signs

def ofText : List Char → List DatetimeSign
  | [] => []
  | c :: rest =>
    if c.isDigit then consDigit c (ofText rest)
    else if ofChar c = .other then [.other]
    else ofChar c :: ofText rest

end DatetimeSign

namespace Datetime

open DatetimeSign

/-- The run of digits that comes first. -/
def takeDigits (part : DatetimePart) (what : String) :
    List DatetimeSign → Except DatetimeError (List Char × List DatetimeSign)
  | .digits run :: rest => .ok (run, rest)
  | _ => .error (.expected part what)

def takeSign (sign : DatetimeSign) (part : DatetimePart) (what : String) :
    List DatetimeSign → Except DatetimeError (List DatetimeSign)
  | first :: rest => if first = sign then .ok rest else .error (.expected part what)
  | [] => .error (.expected part what)

def require (condition : Bool) (part : DatetimePart) (what : String) : Except DatetimeError Unit :=
  if condition then .ok () else .error (.expected part what)

/-- The date whose year is given and whose month comes first. -/
def parseDate (year : List Char) (signs : List DatetimeSign) :
    Except DatetimeError (Date × List DatetimeSign) := do
  let (month, signs) ← takeDigits .date "month" signs
  let signs ← takeSign .dash .date "\x60-\x60 (MM-DD)" signs
  let (day, signs) ← takeDigits .date "day" signs
  require (year.length = 4) .date "a four-digit year (YYYY)"
  require (month.length = 2) .date "a two-digit month (MM)"
  require (day.length = 2) .date "a two-digit day (DD)"
  let date : Date := ⟨digitsValue year, digitsValue month, digitsValue day⟩
  require (1 ≤ date.month ∧ date.month ≤ 12) .date "month between 01 and 12"
  let last := daysInMonth date.year date.month
  require (1 ≤ date.day ∧ date.day ≤ last) .date
    ("day between 01 and " ++ String.ofList (Text.decimalDigits last))
  return (date, signs)

/-- The digits after a point, none when there is no point. -/
def takeFraction : List DatetimeSign → Except DatetimeError (List Char × List DatetimeSign)
  | .dot :: signs => takeDigits .time "nanosecond" signs
  | signs => .ok ([], signs)

/-- The time whose hour comes first. -/
def parseTime (signs : List DatetimeSign) : Except DatetimeError (Time × List DatetimeSign) := do
  let (hour, signs) ← takeDigits .time "hour" signs
  let signs ← takeSign .colon .time "\x60:\x60 (HH:MM)" signs
  let (minute, signs) ← takeDigits .time "minute" signs
  let signs ← takeSign .colon .time "\x60:\x60 (MM:SS)" signs
  let (second, signs) ← takeDigits .time "second" signs
  let (fraction, signs) ← takeFraction signs
  require (hour.length = 2) .time "a two-digit hour (HH)"
  require (minute.length = 2) .time "a two-digit minute (MM)"
  require (second.length = 2) .time "a two-digit second (SS)"
  let time : Time :=
    ⟨digitsValue hour, digitsValue minute, digitsValue second, nanoseconds fraction⟩
  require (time.hour ≤ 23) .time "hour between 00 and 23"
  require (time.minute ≤ 59) .time "minute between 00 and 59"
  require (time.second ≤ 60) .time "second between 00 and 60"
  return (time, signs)

/-- The minutes of an offset whose hour comes first. -/
def parseOffsetMinutes (signs : List DatetimeSign) :
    Except DatetimeError (Nat × List DatetimeSign) := do
  let (hour, signs) ← takeDigits .offset "hour" signs
  let signs ← takeSign .colon .offset "\x60:\x60 (HH:MM)" signs
  let (minute, signs) ← takeDigits .offset "minute" signs
  require (hour.length = 2) .offset "a two-digit hour (HH)"
  require (minute.length = 2) .offset "a two-digit minute (MM)"
  require (digitsValue hour ≤ 23) .offset "hours between 00 and 23"
  require (digitsValue minute ≤ 59) .offset "minutes between 00 and 59"
  return (digitsValue hour * 60 + digitsValue minute, signs)

/-- The offset after a date and a time; there need not be one. -/
def parseOffset :
    List DatetimeSign → Except DatetimeError (Option Offset × List DatetimeSign)
  | [] => .ok (none, [])
  | .letterZ :: signs => .ok (some .utc, signs)
  | .plus :: signs =>
    (parseOffsetMinutes signs).map fun (count, signs) => (some (.minutes count), signs)
  | .dash :: signs =>
    (parseOffsetMinutes signs).map fun (count, signs) => (some (.minutes (-count)), signs)
  | _ => .error (.expected .offset "\x60Z\x60, +OFFSET, -OFFSET")

/-- What was read, when nothing follows it. -/
def atEnd (d : Datetime) : List DatetimeSign → Except DatetimeError Datetime
  | [] => .ok d
  | _ :: _ => .error .leftover

/-- What follows a date: nothing, or a time and perhaps an offset. -/
def parseAfterDate (day : Date) : List DatetimeSign → Except DatetimeError Datetime
  | [] => .ok (.date day)
  | separator :: signs => do
    require (separator = .letterT ∨ separator = .blank) .between
      "\x60T\x60 between date and time"
    let (clock, signs) ← parseTime signs
    let (offset, signs) ← parseOffset signs
    atEnd (.dateTime day clock offset) signs

/-- The datetime that the signs make up. The sign after the first number tells a date from a time. -/
def ofSigns (signs : List DatetimeSign) : Except DatetimeError Datetime := do
  let (first, after) ← takeDigits .whole "year or hour" signs
  match after with
  | .dash :: rest =>
    let (day, rest) ← parseDate first rest
    parseAfterDate day rest
  | .colon :: _ =>
    let (clock, rest) ← parseTime signs
    atEnd (.time clock) rest
  | _ => .error (.expected .whole "\x60-\x60 (YYYY-MM) or \x60:\x60 (HH:MM)")

def parse (text : String) : Except DatetimeError Datetime :=
  ofSigns (DatetimeSign.ofText text.toList)

/-- The datetime that a text is, if it is one. -/
def ofText? (text : String) : Option Datetime :=
  (parse text).toOption

end Datetime

end InlineVariables.Toml
