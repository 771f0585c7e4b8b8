/-!
# Calendar dates

The date and the time of day, in the Gregorian calendar and in universal time, of a count of
seconds since the beginning of 1970.

## Main definitions

* `CalendarTime`, `CalendarTime.ofSeconds`.
* `Timestamp.text`: how a time is shown.

## Design notes

Years are counted from March, so that a leap day is the last day of its year. Every 400 years have
146097 days, and the months from March on follow one rule of their numbers.
-/

namespace TaskDesk

/-- A date and a time of day. -/
structure CalendarTime where
  year : Nat
  month : Nat
  day : Nat
  hour : Nat
  minute : Nat
  second : Nat
deriving DecidableEq, Repr

namespace CalendarTime

/-- Days in 400 years. -/
def cycleDays : Nat := 146097

/-- Days from the first of March of the year 0 to the beginning of 1970. -/
def epochDay : Nat := 719468

/-- The date of a day that is counted from the first of March of the year 0: year, month, day. -/
def dateOfDay (day : Nat) : Nat × Nat × Nat :=
  let inCycle := day % cycleDays
  let year := (inCycle - inCycle / 1460 + inCycle / 36524 - inCycle / 146096) / 365
  let inYear := inCycle - (365 * year + year / 4 - year / 100)
  let fromMarch := (5 * inYear + 2) / 153
  let date := inYear - (153 * fromMarch + 2) / 5 + 1
  let month := if fromMarch < 10 then fromMarch + 3 else fromMarch - 9
  let march := year + 400 * (day / cycleDays)
  (if month ≤ 2 then march + 1 else march, month, date)

/-- The time that is some seconds after the beginning of 1970. -/
def ofSeconds (seconds : Nat) : CalendarTime :=
  let (year, month, day) := dateOfDay (seconds / 86400 + epochDay)
  let inDay := seconds % 86400
  { year, month, day
    hour := inDay / 3600
    minute := inDay / 60 % 60
    second := inDay % 60 }

end CalendarTime

namespace Timestamp

/-- Decimal digits, filled up with zeros. -/
def digits (width n : Nat) : String :=
  let text := toString n
  String.ofList (List.replicate (width - text.length) '0') ++ text

/-- The last second that has a date here: the end of the year 262142. -/
def lastSecond : Nat := 8210266876799

/-- Year, month, day and time of day. A year of more than four digits has a plus sign. -/
def calendarText (t : CalendarTime) : String :=
  (if t.year > 9999 then "+" else "") ++ digits 4 t.year ++ "-" ++ digits 2 t.month ++ "-" ++
    digits 2 t.day ++ " " ++ digits 2 t.hour ++ ":" ++ digits 2 t.minute ++ ":" ++
    digits 2 t.second

/-- The time that some seconds are; a dash for a time that is not known or has no date here. -/
def text (seconds : Int) : String :=
  if 0 < seconds ∧ seconds ≤ lastSecond then
    calendarText (CalendarTime.ofSeconds seconds.toNat)
  else "-"

end Timestamp

end TaskDesk
