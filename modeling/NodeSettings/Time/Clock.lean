import NodeSettings.Time.Pattern

/-!
# What clocks tell

A clock counts seconds in a word of 64 bits, and years from 1900 in a word of 32 bits. A moment
within these bounds has a text, unless its year is beyond the numbers of 32 bits. A local clock,
which here tells universal time, knows only the years of the common calendar, and looks back a day
to see whether the time was set.
-/

namespace NodeSettings.Time

/-! ### Faults -/

inductive Fault where
  | seconds
  | clockYear
  | shownYear
  | commonYear (year : Int)
  | nullInPattern
  deriving DecidableEq, Repr

def Fault.message : Fault → Text
  | .seconds => "timestamp out of range for platform time_t"
  | .clockYear => "[Errno 75] Value too large for defined data type"
  | .shownYear => "signed integer is greater than maximum"
  | .commonYear year => "year " ++ Decimal.ofInt year ++ " is out of range"
  | .nullInPattern => "embedded null character"

/-! ### Bounds -/

def secondsBound : Int := 0x8000000000000000

def wordBound : Int := 0x80000000

def clockStart : Int := 1900

/-- The last year of the common calendar; the first is the year one. -/
def lastYear : Int := 9999

/-- Whether a number lies within a bound, which itself is only reached below zero. -/
def isWithin (bound n : Int) : Bool := -bound ≤ n && n < bound

/-! ### Telling a time -/

def Moment.ofClock (seconds : Int) : Except Fault Moment :=
  let m := Moment.ofSeconds seconds
  if !isWithin secondsBound seconds then .error .seconds
  else if !isWithin wordBound (m.date.year - clockStart) then .error .clockYear
  else .ok m

def tell (pattern : Text) (seconds : Int) : Except Fault Text := do
  let m ← Moment.ofClock seconds
  if wordBound ≤ m.date.year then throw .shownYear
  if pattern.contains '\x00' then throw .nullInPattern
  return format pattern m

/-! ### Local time -/

/-- Checks that the year of a time is one of the common calendar. The year is counted in a word of
32 bits. -/
def checkYear (seconds : Int) : Except Fault Unit := do
  let m ← Moment.ofClock seconds
  let year := m.date.year.bmod 0x100000000
  if year < 1 ∨ lastYear < year then throw (.commonYear year)

/-- Checks that a local clock tells a time: the time and the one a day before it have years of the
common calendar. -/
def checkLocal (seconds : Int) : Except Fault Unit := do
  checkYear seconds
  checkYear (seconds - Moment.secondsOfDay)

end NodeSettings.Time
