/-!
# Moments of universal time

A moment is given by the seconds since the start of 1970 and shown by its date and its time of day.
The calendar repeats itself every 400 years; within such an era the years are counted from March,
so that a leap day is the last of its year.
-/

namespace NodeSettings.Time

/-! ### Dates -/

structure Date where
  /-- The year; the one before the first is zero. -/
  year : Int
  /-- The month, from one. -/
  month : Nat
  day : Nat
  deriving DecidableEq, Repr

def daysOfEra : Nat := 146097

/-- The days from the first of March of the year zero to the start of 1970. -/
def daysToEpoch : Nat := 719468

/-- The number of the year within an era, counted from March, in which a day of the era lies. -/
def yearOfEra (day : Nat) : Nat := (day - day / 1460 + day / 36524 - day / 146096) / 365

/-- The days from the start of an era to the start of one of its years. -/
def daysBeforeYear (year : Nat) : Nat := 365 * year + year / 4 - year / 100

/-- The date of a day, counted from the start of 1970. -/
def Date.ofDays (days : Int) : Date :=
  let day := days + daysToEpoch
  let dayOfEra := (day % daysOfEra).toNat
  let year := yearOfEra dayOfEra
  let dayOfYear := dayOfEra - daysBeforeYear year
  let month := (5 * dayOfYear + 2) / 153
  { year := day / daysOfEra * 400 + year + (if month < 10 then 0 else 1)
    month := if month < 10 then month + 3 else month - 9
    day := dayOfYear - (153 * month + 2) / 5 + 1 }

def isLeap (year : Int) : Bool := year % 4 = 0 && (year % 100 ≠ 0 || year % 400 = 0)

def daysOfYear (year : Int) : Nat := if isLeap year then 366 else 365

def daysOfMonths : List Nat := [31, 28, 31, 30, 31, 30, 31, 31, 30, 31, 30, 31]

/-- The days of the year before a date. -/
def Date.dayOfYear (date : Date) : Nat :=
  (daysOfMonths.take (date.month - 1)).foldl (· + ·) 0 + (date.day - 1)
    + (if isLeap date.year && 2 < date.month then 1 else 0)

/-! ### Moments -/

structure Moment where
  seconds : Int
  date : Date
  hour : Nat
  minute : Nat
  second : Nat
  /-- The day of the week, from Sunday. -/
  weekday : Nat
  deriving DecidableEq, Repr

namespace Moment

def secondsOfDay : Nat := 86400

/-- The moment that lies so many seconds after the start of 1970, which was a Thursday. -/
def ofSeconds (seconds : Int) : Moment :=
  let days := seconds / secondsOfDay
  let rest := (seconds % secondsOfDay).toNat
  { seconds
    date := .ofDays days
    hour := rest / 3600
    minute := rest / 60 % 60
    second := rest % 60
    weekday := ((days + 4) % 7).toNat }

def dayOfYear (m : Moment) : Nat := m.date.dayOfYear

def clockHour (m : Moment) : Nat := if m.hour % 12 = 0 then 12 else m.hour % 12

/-- The day of the week, from Monday. -/
def weekdayFromMonday (m : Moment) : Nat := (m.weekday + 6) % 7

/-- The number of the week, where the first Sunday begins the first week. -/
def weekFromSunday (m : Moment) : Nat := (m.dayOfYear + 7 - m.weekday) / 7

/-- The number of the week, where the first Monday begins the first week. -/
def weekFromMonday (m : Moment) : Nat := (m.dayOfYear + 7 - m.weekdayFromMonday) / 7

/-- The year to which the week of a moment belongs, and the number of the week in it: a week begins
on Monday and belongs to the year that holds its Thursday. -/
def weekYear (m : Moment) : Int × Nat :=
  let thursday : Int := m.dayOfYear + 3 - m.weekdayFromMonday
  let year := m.date.year
  if thursday < 0 then (year - 1, (thursday + daysOfYear (year - 1)).toNat / 7 + 1)
  else if daysOfYear year ≤ thursday then (year + 1, (thursday - daysOfYear year).toNat / 7 + 1)
  else (year, thursday.toNat / 7 + 1)

end Moment

end NodeSettings.Time
