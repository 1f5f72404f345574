import CallForm.Decimal.Integer

/-!
# Dates and times

Dates of the Gregorian calendar between the years 1 and 9999, and times of day with an
optional offset from universal time.  The constructors `Date.of` and `DateTime.of`
refuse what the calendar and the clock do not have, and say which part is wrong.
-/

namespace CallForm

/-- The decimal text of a number with zeros in front to fill the given width. -/
def padded (width n : Nat) : String :=
  String.ofList (List.replicate (width - (digits n).length) '0' ++ digits n)

/-- A day of the calendar. -/
structure Date where
  year : Nat
  month : Nat
  day : Nat
  deriving DecidableEq

/-- A time of day. -/
structure Time where
  hour : Nat
  minute : Nat
  second : Nat
  microsecond : Nat
  deriving DecidableEq

/-- A day and a time, with the offset from universal time in seconds if it is known. -/
structure DateTime where
  date : Date
  time : Time
  offset : Option Int
  deriving DecidableEq

/-- Why there is no such date or time. -/
inductive CalendarError where
  | year (n : Nat)
  | month
  | day
  | hour
  | minute
  | second
  /-- An offset of a day or more, in seconds. -/
  | offset (seconds : Int)
  deriving DecidableEq

/-! ### The calendar and the clock -/

/-- Whether a year has a 29th of February. -/
def isLeapYear (year : Nat) : Bool :=
  year % 4 = 0 && (year % 100 ≠ 0 || year % 400 = 0)

/-- The number of days of a month. -/
def daysInMonth (year month : Nat) : Nat :=
  if month = 2 then if isLeapYear year then 29 else 28
  else if month = 4 ∨ month = 6 ∨ month = 9 ∨ month = 11 then 30
  else 31

/-- The date with the given year, month and day. -/
def Date.of (year month day : Nat) : Except CalendarError Date :=
  if year < 1 ∨ 9999 < year then throw (.year year)
  else if month < 1 ∨ 12 < month then throw .month
  else if day < 1 ∨ daysInMonth year month < day then throw .day
  else return ⟨year, month, day⟩

/-- The time with the given parts. -/
def Time.of (hour minute second microsecond : Nat) : Except CalendarError Time :=
  if 23 < hour then throw .hour
  else if 59 < minute then throw .minute
  else if 59 < second then throw .second
  else return ⟨hour, minute, second, microsecond⟩

/-- An offset from universal time of less than a day. -/
def checkOffset : Option Int → Except CalendarError (Option Int)
  | none => return none
  | some seconds =>
    if seconds.natAbs < 86400 then return some seconds else throw (.offset seconds)

/-! ### Instants -/

/-- The number of days from the beginning of the calendar to the end of a date. -/
def Date.ordinal (d : Date) : Nat :=
  let years := d.year - 1
  years * 365 + years / 4 - years / 100 + years / 400 +
    (List.range (d.month - 1)).foldl (fun days m => days + daysInMonth d.year (m + 1)) 0 + d.day

/-- The number of microseconds since midnight. -/
def Time.microseconds (t : Time) : Nat :=
  ((t.hour * 60 + t.minute) * 60 + t.second) * 1000000 + t.microsecond

/-- The microseconds from the beginning of the calendar, in universal time if the offset
from it is known. -/
def DateTime.instant (t : DateTime) : Int :=
  (t.date.ordinal * 86400000000 + t.time.microseconds : Nat) - t.offset.getD 0 * 1000000

/-- Whether two dates and times are equal: they are the same instant, with an offset each
or both without one. -/
def DateTime.isSame (t u : DateTime) : Bool :=
  t.offset.isSome = u.offset.isSome && t.instant = u.instant

/-! ### Written forms -/

/-- The date by year, month and day. -/
def Date.text (d : Date) : String :=
  padded 4 d.year ++ "-" ++ padded 2 d.month ++ "-" ++ padded 2 d.day

/-- The time by hour, minute and second, with microseconds unless they are zero. -/
def Time.text (t : Time) : String :=
  padded 2 t.hour ++ ":" ++ padded 2 t.minute ++ ":" ++ padded 2 t.second ++
    if t.microsecond = 0 then "" else "." ++ padded 6 t.microsecond

/-- An offset by sign, hours and minutes. -/
def offsetText (seconds : Int) : String :=
  (if seconds < 0 then "-" else "+") ++ padded 2 (seconds.natAbs / 3600) ++ ":" ++
    padded 2 (seconds.natAbs / 60 % 60)

/-- The date, the time and the offset. -/
def DateTime.text (t : DateTime) : String :=
  t.date.text ++ " " ++ t.time.text ++ (t.offset.map offsetText).getD ""

/-- A list of parts between parentheses. -/
def shownParts (name : String) (parts : List String) : String :=
  name ++ "(" ++ ", ".intercalate parts ++ ")"

/-- A span of seconds shown as whole days and the seconds of a day beyond them. -/
def shownSpan (seconds : Int) : String :=
  let days := Int.fdiv seconds 86400
  let rest := Int.fmod seconds 86400
  let parts := (if days = 0 then [] else ["days=" ++ decimal days]) ++
    if rest = 0 then [] else ["seconds=" ++ decimal rest]
  shownParts "datetime.timedelta" (if parts.isEmpty then ["0"] else parts)

/-- A date shown by its parts. -/
def Date.shown (d : Date) : String :=
  shownParts "datetime.date" [decimal d.year, decimal d.month, decimal d.day]

/-- A date and time shown by its parts; seconds that are zero to the end are left
out. -/
def DateTime.shown (t : DateTime) : String :=
  let fine := if t.time.microsecond ≠ 0 then
      [decimal t.time.second, decimal t.time.microsecond]
    else if t.time.second ≠ 0 then [decimal t.time.second]
    else []
  let zone := match t.offset with
    | none => []
    | some 0 => ["tzinfo=datetime.timezone.utc"]
    | some seconds => ["tzinfo=" ++ shownParts "datetime.timezone" [shownSpan seconds]]
  shownParts "datetime.datetime"
    ([decimal t.date.year, decimal t.date.month, decimal t.date.day,
      decimal t.time.hour, decimal t.time.minute] ++ fine ++ zone)

/-- The message about a date or time that does not exist. -/
def CalendarError.message : CalendarError → String
  | year n => "year " ++ decimal n ++ " is out of range"
  | month => "month must be in 1..12"
  | day => "day is out of range for month"
  | hour => "hour must be in 0..23"
  | minute => "minute must be in 0..59"
  | second => "second must be in 0..59"
  | offset seconds =>
    "offset must be a timedelta strictly between -timedelta(hours=24) and " ++
      "timedelta(hours=24), not " ++ shownSpan seconds ++ "."

end CallForm
