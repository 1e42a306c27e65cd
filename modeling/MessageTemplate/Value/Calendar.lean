/-!
# Calendar

Dates of the Gregorian calendar, extended in both directions, and times of day. A `Date`
exists and a `Time` lies within its day; a leap second is the last second of a minute with a
fraction of one second or more.
-/

namespace MessageTemplate

/-- Whether February has 29 days. -/
def isLeapYear (year : Int) : Bool :=
  year % 4 = 0 && (year % 100 ≠ 0 || year % 400 = 0)

/-- The number of days of a month counted from 1; other numbers name no month. -/
def daysInMonth (year : Int) (month : Nat) : Nat :=
  match month with
  | 1 | 3 | 5 | 7 | 8 | 10 | 12 => 31
  | 4 | 6 | 9 | 11 => 30
  | 2 => if isLeapYear year then 29 else 28
  | _ => 0

/-- A day of the calendar. -/
structure Date where
  year : Int
  month : Nat
  day : Nat
  day_pos : 1 ≤ day
  day_le : day ≤ daysInMonth year month

namespace Date

/-- The day with these numbers, if the calendar has it. -/
def ofParts? (year : Int) (month day : Nat) : Option Date :=
  if h : 1 ≤ day ∧ day ≤ daysInMonth year month then some ⟨year, month, day, h.1, h.2⟩ else none

/-- The number of days before the first of January of a year, counted from year 1. -/
def daysBeforeYear (year : Int) : Int :=
  let before := year - 1
  365 * before + before / 4 - before / 100 + before / 400

/-- The number of days of a year before the first of a month. -/
def daysBeforeMonth (year : Int) (month : Nat) : Nat :=
  ((List.range (month - 1)).map fun index => daysInMonth year (index + 1)).foldr (· + ·) 0

/-- Days since Monday, the first of January of year 1. -/
def dayNumber (date : Date) : Int :=
  daysBeforeYear date.year + daysBeforeMonth date.year date.month + (date.day - 1 : Nat)

/-- Days since the last Monday: 0 on Monday, 6 on Sunday. -/
def weekday (date : Date) : Nat := (date.dayNumber % 7).toNat

end Date

/-- A time of day, possibly within a leap second. -/
structure Time where
  hour : Nat
  minute : Nat
  second : Nat
  nanosecond : Nat
  hour_lt : hour < 24
  minute_lt : minute < 60
  second_lt : second < 60
  nanosecond_lt : nanosecond < if second = 59 then 2000000000 else 1000000000

namespace Time

/-- The time with these numbers, if it lies in a day. -/
def ofParts? (hour minute second nanosecond : Nat) : Option Time :=
  if h : hour < 24 ∧ minute < 60 ∧ second < 60 ∧
      nanosecond < if second = 59 then 2000000000 else 1000000000 then
    some ⟨hour, minute, second, nanosecond, h.1, h.2.1, h.2.2.1, h.2.2.2⟩
  else none

/-- The start of the day. -/
def midnight : Time := ⟨0, 0, 0, 0, by omega, by omega, by omega, by simp⟩

end Time

/-- A day and a time, of no particular time zone. -/
structure Timestamp where
  date : Date
  time : Time

namespace Timestamp

/-- The digits of a number, with zeros in front up to `width`. -/
def padded (width number : Nat) : String :=
  let digits := Nat.toDigits 10 number
  String.ofList (List.replicate (width - digits.length) '0' ++ digits)

/-- Four digits for the years from 0 to 9999; a sign and at least four digits beyond them. -/
def yearText (year : Int) : String :=
  if 0 ≤ year ∧ year ≤ 9999 then padded 4 year.toNat
  else (if year < 0 then "-" else "+") ++ padded 4 year.natAbs

/-- A fraction of a second in 3, 6 or 9 places, whichever is the first to be exact. -/
def fractionText (nanosecond : Nat) : String :=
  if nanosecond = 0 then ""
  else if nanosecond % 1000000 = 0 then "." ++ padded 3 (nanosecond / 1000000)
  else if nanosecond % 1000 = 0 then "." ++ padded 6 (nanosecond / 1000)
  else "." ++ padded 9 nanosecond

/-- The day as year, month and day. -/
def dateText (date : Date) : String :=
  yearText date.year ++ "-" ++ padded 2 date.month ++ "-" ++ padded 2 date.day

/-- The time as hour, minute, second and fraction; a leap second is second 60. -/
def timeText (time : Time) : String :=
  let leap := 1000000000 ≤ time.nanosecond
  let second := if leap then time.second + 1 else time.second
  let nanosecond := if leap then time.nanosecond - 1000000000 else time.nanosecond
  padded 2 time.hour ++ ":" ++ padded 2 time.minute ++ ":" ++ padded 2 second ++
    fractionText nanosecond

/-- Day and time with a blank between them. -/
def text (timestamp : Timestamp) : String :=
  dateText timestamp.date ++ " " ++ timeText timestamp.time

/-- Day and time with a `T` between them. -/
def isoText (timestamp : Timestamp) : String :=
  dateText timestamp.date ++ "T" ++ timeText timestamp.time

/-- The start of a day. -/
def ofDate (date : Date) : Timestamp := ⟨date, .midnight⟩

end Timestamp

end MessageTemplate
