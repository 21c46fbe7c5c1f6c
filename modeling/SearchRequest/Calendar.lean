/-!
# Dates and moments

Days of the calendar and moments of a day, the latter with or without an offset from universal time, and
the standard text of both.
-/

namespace SearchRequest

structure Date where
  year : Nat
  month : Nat
  day : Nat
  deriving DecidableEq, Repr

/-- A moment of a day; `offset` is its distance from universal time in minutes. -/
structure Moment where
  date : Date
  hour : Nat
  minute : Nat
  second : Nat
  microsecond : Nat
  offset : Option Int
  deriving DecidableEq, Repr

/-- Why numbers are no date or moment. -/
inductive CalendarError where
  | year (n : Nat)
  | month
  | day
  | hour
  | minute
  | second
  /-- An offset of a whole day or more, in minutes. -/
  | offset (minutes : Int)
  deriving DecidableEq, Repr

namespace Calendar

/-- A number filled up with zeros to a width. -/
def padded (width n : Nat) : String :=
  let ds := Nat.toDigits 10 n
  String.ofList (List.replicate (width - ds.length) '0' ++ ds)

def isLeap (year : Nat) : Bool :=
  year % 4 == 0 && (year % 100 != 0 || year % 400 == 0)

def daysIn (year month : Nat) : Nat :=
  match month with
  | 2 => if isLeap year then 29 else 28
  | 4 | 6 | 9 | 11 => 30
  | _ => 31

/-- The number of minutes as days, never rounded up, and the seconds of the last day. -/
def daysAndSeconds (minutes : Int) : Int × Int := (minutes / 1440, minutes % 1440 * 60)

/-- A span of minutes as messages write it, zero parts left out. -/
def spanText (minutes : Int) : String :=
  let (days, seconds) := daysAndSeconds minutes
  let parts := (if days = 0 then [] else ["days=" ++ toString days]) ++
    (if seconds = 0 then [] else ["seconds=" ++ toString seconds])
  "datetime.timedelta(" ++ (if parts.isEmpty then "0" else String.intercalate ", " parts) ++ ")"

end Calendar

namespace CalendarError

def message : CalendarError → String
  | .year n => "year " ++ toString n ++ " is out of range"
  | .month => "month must be in 1..12"
  | .day => "day is out of range for month"
  | .hour => "hour must be in 0..23"
  | .minute => "minute must be in 0..59"
  | .second => "second must be in 0..59"
  | .offset minutes =>
    "offset must be a timedelta strictly between -timedelta(hours=24) and timedelta(hours=24), not " ++
      Calendar.spanText minutes ++ "."

end CalendarError

namespace Date

/-- The date of the numbers, if the calendar has it. -/
def of (year month day : Nat) : Except CalendarError Date :=
  if year < 1 ∨ 9999 < year then .error (.year year)
  else if month < 1 ∨ 12 < month then .error .month
  else if day < 1 ∨ Calendar.daysIn year month < day then .error .day
  else .ok ⟨year, month, day⟩

/-- The date as `YYYY-MM-DD`. -/
def iso (d : Date) : String :=
  Calendar.padded 4 d.year ++ "-" ++ Calendar.padded 2 d.month ++ "-" ++ Calendar.padded 2 d.day

/-- The number of the day, counted from the first day of the year one. -/
def ordinal (d : Date) : Nat :=
  let before := d.year - 1
  let months := (List.range (d.month - 1)).map fun m => Calendar.daysIn d.year (m + 1)
  before * 365 + before / 4 - before / 100 + before / 400 + months.foldl (· + ·) 0 + d.day

/-- The day that lies a number of days after the first of March of the year zero, from which on leap days end
years, and years end every cycle of four hundred of them. -/
def ofDayOfEra (days : Nat) : Date :=
  let era := days / 146097
  let day := days % 146097
  let year := (day - day / 1460 + day / 36524 - day / 146096) / 365
  let dayOfYear := day - (365 * year + year / 4 - year / 100)
  let month := (5 * dayOfYear + 2) / 153
  let year := year + era * 400
  ⟨if month < 10 then year else year + 1, if month < 10 then month + 3 else month - 9,
    dayOfYear - (153 * month + 2) / 5 + 1⟩

end Date

namespace Moment

/-- The moment of the numbers, if the calendar has it. -/
def of (date : Date) (hour minute second microsecond : Nat) (offset : Option Int) :
    Except CalendarError Moment :=
  if 24 ≤ hour then .error .hour
  else if 60 ≤ minute then .error .minute
  else if 60 ≤ second then .error .second
  else .ok ⟨date, hour, minute, second, microsecond, offset⟩

/-- The moment a number of seconds after the start of 1970, in universal time. -/
def ofUnixSeconds (seconds : Nat) : Moment :=
  let rest := seconds % 86400
  { date := .ofDayOfEra (seconds / 86400 + 719468)
    hour := rest / 3600
    minute := rest / 60 % 60
    second := rest % 60
    microsecond := 0
    offset := some 0 }

/-- An offset as `+HH:MM`. -/
def offsetText (minutes : Int) : String :=
  (if minutes < 0 then "-" else "+") ++ Calendar.padded 2 (minutes.natAbs / 60) ++ ":" ++
    Calendar.padded 2 (minutes.natAbs % 60)

/-- The time of day, its fraction only when it has one, and its offset. -/
def timeText (t : Moment) : String :=
  Calendar.padded 2 t.hour ++ ":" ++ Calendar.padded 2 t.minute ++ ":" ++ Calendar.padded 2 t.second ++
    (if t.microsecond = 0 then "" else "." ++ Calendar.padded 6 t.microsecond) ++
    (match t.offset with
      | some minutes => offsetText minutes
      | none => "")

/-- The moment as `YYYY-MM-DDTHH:MM:SS`, with fraction and offset where it has them. -/
def iso (t : Moment) : String := t.date.iso ++ "T" ++ t.timeText

/-- The microseconds from the start of the calendar to the moment, in universal time where it is known. -/
def instant (t : Moment) : Int :=
  let seconds : Int := t.date.ordinal * 86400 + t.hour * 3600 + t.minute * 60 + t.second
  (seconds - t.offset.getD 0 * 60) * 1000000 + t.microsecond

/-- Whether two moments are one key of a mapping: the same instant, or the same reading where neither
offset is known. -/
def sameKey (s t : Moment) : Bool :=
  s.offset.isSome == t.offset.isSome && s.instant == t.instant

end Moment

end SearchRequest
