/-! # Dates

The Gregorian calendar, extended to all years, with a year zero. Days are counted from the first of
January 1970. Both directions count in years that begin in March and in cycles of 400 years, which
have 146097 days each. -/

namespace Dynamo

/-- A day of a year. -/
structure Date where
  year : Int
  month : Nat
  day : Nat
  deriving DecidableEq, Repr

namespace Date

/-- Has the year a 29th of February? -/
def isLeap (year : Int) : Bool := year % 4 = 0 && (year % 100 ≠ 0 || year % 400 = 0)

/-- How many days has the month? -/
def daysInMonth (year : Int) (month : Nat) : Nat :=
  if month = 2 then if isLeap year then 29 else 28
  else if month = 4 ∨ month = 6 ∨ month = 9 ∨ month = 11 then 30
  else 31

/-- Is there such a day? -/
def isValid (d : Date) : Bool :=
  1 ≤ d.month && d.month ≤ 12 && 1 ≤ d.day && d.day ≤ daysInMonth d.year d.month

/-- The days from the first of March of the year 0 to the first of January 1970. -/
def epochShift : Int := 719468

/-- The days of a cycle. -/
def cycleDays : Int := 146097

/-- The days of a year before a month, both counted from March. -/
def daysBeforeMonth (m : Nat) : Nat := (153 * m + 2) / 5

/-- The days of a cycle before a year of the cycle. -/
def daysBeforeYear (y : Nat) : Nat := 365 * y + y / 4 - y / 100

/-- The number of the day. -/
def toDays (d : Date) : Int :=
  let year := if d.month ≤ 2 then d.year - 1 else d.year
  let month := if d.month ≤ 2 then d.month + 9 else d.month - 3
  let inCycle := daysBeforeYear (year % 400).toNat + daysBeforeMonth month + (d.day - 1)
  year / 400 * cycleDays + inCycle - epochShift

/-- The year of a cycle that a day of the cycle is in. -/
def yearOfDay (n : Nat) : Nat := (n - n / 1460 + n / 36524 - n / 146096) / 365

/-- The month that a day of a year is in, both counted from March. -/
def monthOfDay (n : Nat) : Nat := (5 * n + 2) / 153

/-- A day of the year that begins in March of `year`. -/
def ofMarch (year : Int) (n : Nat) : Date :=
  let month := monthOfDay n
  let day := n - daysBeforeMonth month + 1
  if month < 10 then ⟨year, month + 3, day⟩ else ⟨year + 1, month - 9, day⟩

/-- The date of a day. -/
def ofDays (days : Int) : Date :=
  let shifted := days + epochShift
  let inCycle := (shifted % cycleDays).toNat
  let year := yearOfDay inCycle
  ofMarch (shifted / cycleDays * 400 + year) (inCycle - daysBeforeYear year)

end Date

end Dynamo
