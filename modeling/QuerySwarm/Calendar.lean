import QuerySwarm.Binary64.Decimal
import QuerySwarm.Duration

/-!
# Dates and times

An instant is the time since the beginning of 1970, and is written as a date and a time of day. Years
are counted from March, so that a leap day is the last day of its year: then the length of the months
before a month is a line that is rounded down, and four centuries have a whole number of days.
-/

namespace QuerySwarm.Calendar

/-- A date. -/
structure Date where
  year : Nat
  month : Nat
  day : Nat
  deriving DecidableEq, Repr

def daysPerEra : Nat := 146097

/-- The days from the first of March of the year 0 to the beginning of 1970. -/
def daysBefore1970 : Nat := 719468

/-- The year of an era that a day of it is in. -/
def yearOfEra (day : Nat) : Nat := (day - day / 1460 + day / 36524 - day / 146096) / 365

/-- The day of its year that a day of an era is, from the first of March on. -/
def dayOfYear (day : Nat) : Nat :=
  let year := yearOfEra day
  day - (365 * year + year / 4 - year / 100)

/-- The month that a day of a year is in, from March on. -/
def monthFromMarch (day : Nat) : Nat := (5 * day + 2) / 153

/-- The number of a month, from its place after March. -/
def monthNumber (fromMarch : Nat) : Nat := if fromMarch < 10 then fromMarch + 3 else fromMarch - 9

/-- The date so many days after the first day of 1970. -/
def dateOfDays (days : Nat) : Date :=
  let day := (days + daysBefore1970) % daysPerEra
  let era := (days + daysBefore1970) / daysPerEra
  let fromMarch := monthFromMarch (dayOfYear day)
  let month := monthNumber fromMarch
  { year := yearOfEra day + era * 400 + (if month ≤ 2 then 1 else 0)
    month := month
    day := dayOfYear day - (153 * fromMarch + 2) / 5 + 1 }

example : dateOfDays 0 = ⟨1970, 1, 1⟩ := by decide
example : dateOfDays 11016 = ⟨2000, 2, 29⟩ := by decide
example : dateOfDays 11017 = ⟨2000, 3, 1⟩ := by decide
example : dateOfDays 20453 = ⟨2025, 12, 31⟩ := by decide

/-- A number with zeros before it, up to a width. -/
def padded (width n : Nat) : String :=
  String.ofList (List.replicate (width - (digitsOf n).length) '0' ++ digitsOf n)

def Date.text (d : Date) : String :=
  padded 4 d.year ++ "-" ++ padded 2 d.month ++ "-" ++ padded 2 d.day

/-- The time of day, with so many places after the second. -/
def timeText (places : Nat) (time : Duration) : String :=
  padded 2 (time.seconds / 3600 % 24) ++ ":" ++ padded 2 (time.seconds / 60 % 60) ++ ":" ++
    padded 2 (time.seconds % 60) ++ "." ++
    padded places (time.subsecond / Nat.pow 10 (9 - places))

def text (places : Nat) (zone : String) (time : Duration) : String :=
  (dateOfDays (time.seconds / 86400)).text ++ "T" ++ timeText places time ++ zone

end QuerySwarm.Calendar
