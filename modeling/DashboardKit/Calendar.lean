import DashboardKit.Decimal.Digits
import DashboardKit.Text.CodePoint

/-!
# Calendar: dates and moments

Documents may hold dates and moments of the Gregorian calendar.  A `Date` and a `Moment` can only be
made by checking every field against its range, and `Fault` says which field is out of range first.
-/

set_option autoImplicit false

namespace DashboardKit.Calendar

/-- A day of the Gregorian calendar, years one to 9999. -/
structure Date where
  year : Nat
  month : Nat
  day : Nat
  deriving DecidableEq, Repr

/-- A date, a time of day to the microsecond, and the distance from universal time in minutes, if
one is given. -/
structure Moment where
  date : Date
  hour : Nat
  minute : Nat
  second : Nat
  microsecond : Nat
  offset : Option Int
  deriving DecidableEq, Repr

/-- The first field of a date or moment that is out of range. -/
inductive Fault where
  | year (n : Nat)
  | month
  | day
  | hour
  | minute
  | second
  /-- a distance from universal time of a day or more, in minutes -/
  | offset (minutes : Int)
  deriving DecidableEq, Repr

/-- Whether a year has 366 days. -/
def isLeap (year : Nat) : Bool := year % 4 == 0 && (year % 100 != 0 || year % 400 == 0)

/-- The number of days in a month. -/
def daysInMonth (year month : Nat) : Nat :=
  if month = 2 then (if isLeap year then 29 else 28)
  else if month = 4 ∨ month = 6 ∨ month = 9 ∨ month = 11 then 30
  else 31

/-- A date with these fields, or the first one that is out of range. -/
def date (year month day : Nat) : Except Fault Date :=
  if year < 1 ∨ 9999 < year then .error (.year year)
  else if month < 1 ∨ 12 < month then .error .month
  else if day < 1 ∨ daysInMonth year month < day then .error .day
  else .ok ⟨year, month, day⟩

/-- A moment with these fields, or the first one that is out of range.  The distance from universal
time is checked first. -/
def moment (year month day hour minute second microsecond : Nat) (offset : Option Int) :
    Except Fault Moment :=
  if offset.any fun o => 1440 ≤ o.natAbs then .error (.offset (offset.getD 0))
  else
    match date year month day with
    | .error f => .error f
    | .ok d =>
      if 23 < hour then .error .hour
      else if 59 < minute then .error .minute
      else if 59 < second then .error .second
      else .ok ⟨d, hour, minute, second, microsecond, offset⟩

/-- The days from the first day of year one to a date. -/
def Date.dayNumber (d : Date) : Nat :=
  let y := d.year - 1
  y * 365 + y / 4 - y / 100 + y / 400
    + (List.range (d.month - 1)).foldl (fun n m => n + daysInMonth d.year (m + 1)) 0 + (d.day - 1)

/-- The microseconds from the start of year one to a moment, read as universal time if no distance
from it is given. -/
def Moment.instant (m : Moment) : Int :=
  (((m.date.dayNumber * 24 + m.hour) * 60 + m.minute : Nat) - m.offset.getD 0) * 60000000
    + ((m.second * 1000000 + m.microsecond : Nat) : Int)

/-- Two moments are the same when both or neither are tied to universal time and they name the same
instant. -/
def Moment.same (a b : Moment) : Bool :=
  a.offset.isSome == b.offset.isSome && a.instant == b.instant

/-! ## Text forms -/

/-- A number with zeros in front up to a width. -/
def padded (width n : Nat) : List Char :=
  let ds := Decimal.digits n
  List.replicate (width - ds.length) '0' ++ ds

/-- `2024-01-15`. -/
def Date.text (d : Date) : List Char :=
  padded 4 d.year ++ '-' :: padded 2 d.month ++ '-' :: padded 2 d.day

/-- `+05:30`. -/
def offsetText (minutes : Int) : List Char :=
  (if minutes < 0 then '-' else '+') :: padded 2 (minutes.natAbs / 60) ++ ':'
    :: padded 2 (minutes.natAbs % 60)

/-- A date and a time of day around a separator, microseconds and offset only where there are
some. -/
def Moment.text (separator : Char) (m : Moment) : List Char :=
  m.date.text ++ separator :: padded 2 m.hour ++ ':' :: padded 2 m.minute ++ ':'
    :: padded 2 m.second
    ++ (if m.microsecond = 0 then [] else '.' :: padded 6 m.microsecond)
    ++ (match m.offset with | none => [] | some o => offsetText o)

/-- Numbers in a list with commas. -/
def listed (ns : List Nat) : List Char :=
  (ns.map Decimal.digits).intersperse [',', ' '] |>.flatten

/-- How a date is shown inside a printed collection. -/
def Date.shown (d : Date) : List Char :=
  "datetime.date(".toList ++ listed [d.year, d.month, d.day] ++ [')']

/-- How a span of minutes is shown: whole days, of either sign, and the seconds on top of them. -/
def spanShown (minutes : Int) : List Char :=
  let days := minutes.fdiv 1440
  let seconds := (minutes.fmod 1440).toNat * 60
  let parts : List (List Char) :=
    (if days = 0 then [] else ["days=".toList ++ Decimal.intDigits days])
    ++ (if seconds = 0 then [] else ["seconds=".toList ++ Decimal.digits seconds])
  "datetime.timedelta(".toList
    ++ (if parts.isEmpty then ['0'] else (parts.intersperse [',', ' ']).flatten) ++ [')']

/-- How a moment is shown inside a printed collection. -/
def Moment.shown (m : Moment) : List Char :=
  let clock :=
    [m.hour, m.minute]
      ++ (if m.microsecond ≠ 0 then [m.second, m.microsecond]
          else if m.second ≠ 0 then [m.second] else [])
  "datetime.datetime(".toList ++ listed ([m.date.year, m.date.month, m.date.day] ++ clock)
    ++ (match m.offset with
        | none => []
        | some o =>
          ", tzinfo=".toList
            ++ (if o = 0 then "datetime.timezone.utc".toList
                else "datetime.timezone(".toList ++ spanShown o ++ [')']))
    ++ [')']

/-- The wording of a fault. -/
def Fault.message : Fault → Text
  | .year n => Text.ofChars ("year ".toList ++ Decimal.digits n ++ " is out of range".toList)
  | .month => "month must be in 1..12"
  | .day => "day is out of range for month"
  | .hour => "hour must be in 0..23"
  | .minute => "minute must be in 0..59"
  | .second => "second must be in 0..59"
  | .offset m =>
    Text.ofChars
      ("offset must be a timedelta strictly between -timedelta(hours=24) and ".toList
        ++ "timedelta(hours=24), not ".toList ++ spanShown m ++ ['.'])

end DashboardKit.Calendar
