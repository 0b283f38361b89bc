/-
This file holds dates and moments of the calendar, and writes them.
-/

namespace RosettaDaml.Data

-- A sum starts from the number zero itself, whatever else is known of numbers.
attribute [local instance(2000)] Zero.ofOfNat0

/-- Decimal digits with zeros in front, up to a width. -/
def padded (width number : Nat) : String :=
  let digits := toString number
  String.ofList (List.replicate (width - digits.length) '0') ++ digits

def isLeapYear (year : Nat) : Bool :=
  year % 4 == 0 && (year % 100 != 0 || year % 400 == 0)

def daysInMonth (year month : Nat) : Nat :=
  if month == 2 then (if isLeapYear year then 29 else 28)
  else if month == 4 || month == 6 || month == 9 || month == 11 then 30
  else 31

inductive CalendarFault where
  | year (year : Nat)
  | month
  | day
  | hour
  | minute
  | second
  | offset (minutes : Int)
  deriving DecidableEq, Repr

/-- A span of time as whole days and the seconds left over. -/
def writeSpan (minutes : Int) : String :=
  let days := minutes / 1440
  let seconds := minutes % 1440 * 60
  let parts := (if days = 0 then [] else [s!"days={days}"]) ++
    (if seconds = 0 then [] else [s!"seconds={seconds}"])
  "datetime.timedelta(" ++ ", ".intercalate parts ++ ")"

def CalendarFault.message : CalendarFault → String
  | .year given => s!"year {given} is out of range"
  | .month => "month must be in 1..12"
  | .day => "day is out of range for month"
  | .hour => "hour must be in 0..23"
  | .minute => "minute must be in 0..59"
  | .second => "second must be in 0..59"
  | .offset minutes => "offset must be a timedelta strictly between -timedelta(hours=24) and " ++
      s!"timedelta(hours=24), not {writeSpan minutes}."

structure Date where
  year : Nat
  month : Nat
  day : Nat
  deriving DecidableEq, Repr

/-- The faults are looked for from the year down to the day. -/
def Date.make (year month day : Nat) : Except CalendarFault Date :=
  if year = 0 ∨ 9999 < year then .error (.year year)
  else if month = 0 ∨ 12 < month then .error .month
  else if day = 0 ∨ daysInMonth year month < day then .error .day
  else .ok ⟨year, month, day⟩

def Date.write (date : Date) : String :=
  s!"{padded 4 date.year}-{padded 2 date.month}-{padded 2 date.day}"

def Date.literal (date : Date) : String :=
  s!"datetime.date({date.year}, {date.month}, {date.day})"

/-- The days from the first day of the year one. -/
def Date.ordinal (date : Date) : Nat :=
  let past := date.year - 1
  let months := (List.range (date.month - 1)).map fun index => daysInMonth date.year (index + 1)
  past * 365 + past / 4 - past / 100 + past / 400 + months.sum + (date.day - 1)

/-- A moment of a day. The offset is in minutes east of the zero meridian. -/
structure DateTime where
  date : Date
  hour : Nat
  minute : Nat
  second : Nat
  microsecond : Nat
  offset : Option Int
  deriving DecidableEq, Repr

/-- The offset comes first: it is fixed before the moment is put together. -/
def DateTime.make (year month day hour minute second microsecond : Nat) (offset : Option Int) :
    Except CalendarFault DateTime := do
  if let some minutes := offset then
    if 24 * 60 ≤ minutes.natAbs then throw (.offset minutes)
  let date ← Date.make year month day
  if 23 < hour then throw .hour
  if 59 < minute then throw .minute
  if 59 < second then throw .second
  return ⟨date, hour, minute, second, microsecond, offset⟩

def writeOffset (offset : Int) : String :=
  let minutes := offset.natAbs
  (if offset < 0 then "-" else "+") ++ s!"{padded 2 (minutes / 60)}:{padded 2 (minutes % 60)}"

def DateTime.write (moment : DateTime) (separator : String) : String :=
  let fraction := if moment.microsecond = 0 then "" else "." ++ padded 6 moment.microsecond
  let zone := match moment.offset with
    | none => ""
    | some offset => writeOffset offset
  moment.date.write ++ separator ++
    s!"{padded 2 moment.hour}:{padded 2 moment.minute}:{padded 2 moment.second}" ++ fraction ++ zone

def zoneLiteral (offset : Int) : String :=
  if offset = 0 then "datetime.timezone.utc" else s!"datetime.timezone({writeSpan offset})"

/-- The seconds are left out when they and the microseconds are zero. -/
def DateTime.literal (moment : DateTime) : String :=
  let date := [moment.date.year, moment.date.month, moment.date.day, moment.hour, moment.minute]
  let seconds :=
    if moment.microsecond ≠ 0 then [moment.second, moment.microsecond]
    else if moment.second ≠ 0 then [moment.second]
    else []
  let zone := match moment.offset with
    | none => []
    | some offset => [s!"tzinfo={zoneLiteral offset}"]
  "datetime.datetime(" ++ ", ".intercalate ((date ++ seconds).map toString ++ zone) ++ ")"

/-- The microseconds since the first day of the year one, at the zero meridian when the offset is
known. -/
def DateTime.instant (moment : DateTime) : Int :=
  let minutes : Int := (moment.date.ordinal * 24 + moment.hour) * 60 + moment.minute
  ((minutes - moment.offset.getD 0) * 60 + moment.second) * 1000000 + moment.microsecond

def DateTime.sameInstant (left right : DateTime) : Bool :=
  left.offset.isSome == right.offset.isSome && left.instant == right.instant

end RosettaDaml.Data
