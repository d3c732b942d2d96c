import Dynamo.Time.Calendar
import Dynamo.Decimal.Text

/-! # Instants and their texts

An instant is a second of Coordinated Universal Time and a part of it; a part of a whole second or
more means the leap second that follows. The timestamp of an item is `YYYY-MM-DDThh:mm:ssZ`, without
the part. -/

namespace Dynamo

open Decimal

/-- A moment. -/
structure Instant where
  /-- Seconds since the beginning of 1970, leap seconds not counted. -/
  seconds : Int
  /-- Billionths of a second; from a billion on, of the leap second behind. -/
  nanos : Nat
  deriving DecidableEq, Repr

/-- A moment as a calendar and a clock show it. -/
structure Clock where
  date : Date
  hour : Nat
  minute : Nat
  /-- The second, which is 60 in a leap second. -/
  second : Nat
  deriving DecidableEq, Repr

/-- The billionths of a second. -/
def Instant.billion : Nat := 1000000000

namespace Clock

/-- What calendar and clock show at an instant. -/
def ofInstant (t : Instant) : Clock :=
  let inDay := (t.seconds % 86400).toNat
  { date := Date.ofDays (t.seconds / 86400)
    hour := inDay / 3600
    minute := inDay / 60 % 60
    second := inDay % 60 + t.nanos / Instant.billion }

/-- The first instant at which calendar and clock show this. -/
def toInstant (c : Clock) : Instant :=
  let second := min c.second 59
  { seconds := c.date.toDays * 86400 + (c.hour * 3600 + c.minute * 60 + second : Nat)
    nanos := (c.second - second) * Instant.billion }

/-- The years that a calendar of 32 bits for year and day can hold. -/
def yearInRange (year : Int) : Bool := -262143 ≤ year && year ≤ 262142

/-- Is there such a day and such a time of it? A leap second may end any minute. -/
def isValid (c : Clock) : Bool :=
  c.date.isValid && yearInRange c.date.year && c.hour ≤ 23 && c.minute ≤ 59 && c.second ≤ 60

/-- The digits of `n`, with zeros before them up to the width. -/
def padded (width n : Nat) : List Char :=
  List.replicate (width - (digitsOf n).length) '0' ++ digitsOf n

/-- A year has at least four digits, and a sign unless it has four and is not negative. -/
def yearChars (year : Int) : List Char :=
  let digits := padded 4 year.natAbs
  if year < 0 then '-' :: digits else if 9999 < year then '+' :: digits else digits

/-- **The timestamp** of what a calendar and a clock show. -/
def chars (c : Clock) : List Char :=
  yearChars c.date.year ++ '-' :: padded 2 c.date.month ++ '-' :: padded 2 c.date.day ++
    'T' :: padded 2 c.hour ++ ':' :: padded 2 c.minute ++ ':' :: padded 2 c.second ++ ['Z']

/-- The date without separators, as scopes of signatures have it. -/
def basicDateChars (c : Clock) : List Char :=
  yearChars c.date.year ++ padded 2 c.date.month ++ padded 2 c.date.day

/-- Date and time without separators, as signatures have them. -/
def basicChars (c : Clock) : List Char :=
  basicDateChars c ++ 'T' :: padded 2 c.hour ++ padded 2 c.minute ++ padded 2 c.second ++ ['Z']

end Clock

/-- The timestamp of an instant. -/
def Instant.text (t : Instant) : String := String.ofList (Clock.ofInstant t).chars

/-- The date of an instant, without separators. -/
def Instant.basicDate (t : Instant) : String := String.ofList (Clock.ofInstant t).basicDateChars

/-- Date and time of an instant, without separators. -/
def Instant.basicText (t : Instant) : String := String.ofList (Clock.ofInstant t).basicChars

end Dynamo
