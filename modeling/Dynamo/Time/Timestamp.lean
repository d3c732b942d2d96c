import Dynamo.Time.Instant
import Dynamo.Decimal.Literal
import Dynamo.Text.Blank

/-! # Reading timestamps

`Clock.ofChars?` reads `YYYY-MM-DDThh:mm:ssZ`. Blank characters may stand before each number; a year
has up to four digits, or a sign and any number of them; the other numbers have one digit or two. -/

namespace Dynamo

open Decimal

namespace Timestamp

/-- Up to `width` digits at the beginning, at least one, and the rest. -/
def digits? (width : Nat) (cs : List Char) : Option (Nat × List Char) :=
  let ds := (cs.take width).takeWhile Char.isDigit
  if ds = [] then none else some (ofDigits ds, cs.drop ds.length)

/-- An unsigned number after blank characters. -/
def number? (cs : List Char) : Option (Nat × List Char) := digits? 2 (Text.skipBlanks cs)

/-- A year after blank characters. -/
def year? (cs : List Char) : Option (Int × List Char) :=
  match Text.skipBlanks cs with
  | '-' :: cs => (digits? cs.length cs).map fun (n, rest) => (-(n : Int), rest)
  | '+' :: cs => (digits? cs.length cs).map fun (n, rest) => ((n : Int), rest)
  | cs => (digits? 4 cs).map fun (n, rest) => ((n : Int), rest)

/-- The rest after the character `c`. -/
def char? (c : Char) : List Char → Option (List Char)
  | c' :: cs => if c' = c then some cs else none
  | [] => none

end Timestamp

open Timestamp in
/-- **What a timestamp says**, if there is such a day and time. -/
def Clock.ofChars? (cs : List Char) : Option Clock := do
  let (year, cs) ← year? cs
  let (month, cs) ← number? (← char? '-' cs)
  let (day, cs) ← number? (← char? '-' cs)
  let (hour, cs) ← number? (← char? 'T' cs)
  let (minute, cs) ← number? (← char? ':' cs)
  let (second, cs) ← number? (← char? ':' cs)
  let rest ← char? 'Z' cs
  let c : Clock := { date := { year, month, day }, hour, minute, second }
  if rest = [] ∧ c.isValid then some c else none

/-- The instant of a timestamp. -/
def Instant.ofText? (s : String) : Option Instant :=
  (Clock.ofChars? s.toList).map Clock.toInstant

end Dynamo
