/-! # Decimal literals

The grammar of decimal texts: an optional minus, digits with an optional point among them, and an
optional exponent. `Literal.ofChars?` takes a text apart; the parts keep every digit, so that an
integer of any length can be read off them exactly. -/

namespace Dynamo.Decimal

/-- The number that a list of decimal digits writes. -/
def ofDigits (cs : List Char) : Nat := cs.foldl (fun n c => n * 10 + (c.toNat - 48)) 0

/-- The parts of a decimal text. -/
structure Literal where
  negative : Bool
  /-- The digits before the point. -/
  whole : List Char
  /-- The digits after the point, if there is a point. -/
  fraction : Option (List Char)
  /-- The exponent, if there is one: has it a minus, and its digits. -/
  exponent : Option (Bool × List Char)
  deriving DecidableEq, Repr

namespace Literal

/-- The exponent at the end of a text, which may be missing; `none` if something else stands there.
-/
def exponentOf? : List Char → Option (Option (Bool × List Char))
  | [] => some none
  | c :: cs =>
    if c = 'e' ∨ c = 'E' then
      let (minus, digits) := match cs with
        | '-' :: cs => (true, cs)
        | '+' :: cs => (false, cs)
        | cs => (false, cs)
      if digits ≠ [] ∧ digits.all Char.isDigit then some (some (minus, digits)) else none
    else none

/-- The fraction at the beginning of a text, which may be missing, and the rest. -/
def fractionOf : List Char → Option (List Char) × List Char
  | '.' :: cs => (some (cs.takeWhile Char.isDigit), cs.dropWhile Char.isDigit)
  | cs => (none, cs)

/-- The parts of an unsigned text, with the given sign put before them. -/
def ofUnsigned? (negative : Bool) (cs : List Char) : Option Literal :=
  let whole := cs.takeWhile Char.isDigit
  let (fraction, rest) := fractionOf (cs.dropWhile Char.isDigit)
  if whole = [] ∧ fraction.getD [] = [] then none
  else (exponentOf? rest).map fun exponent => { negative, whole, fraction, exponent }

/-- **The parts of a text**, if it is a decimal text. -/
def ofChars? : List Char → Option Literal
  | '-' :: cs => ofUnsigned? true cs
  | cs => ofUnsigned? false cs

/-- Is the text written without a point and without an exponent? -/
def isInteger (l : Literal) : Bool := l.fraction.isNone && l.exponent.isNone

/-- The number that all digits before the exponent write. -/
def mantissa (l : Literal) : Nat := ofDigits (l.whole ++ l.fraction.getD [])

/-- The power of ten that the mantissa is multiplied by. -/
def scale (l : Literal) : Int :=
  let written : Int := match l.exponent with
    | none => 0
    | some (minus, digits) => if minus then -(ofDigits digits : Int) else (ofDigits digits : Int)
  written - ((l.fraction.getD []).length : Int)

/-- The integer that a text without point and exponent writes. -/
def toInt (l : Literal) : Int := if l.negative then -(l.mantissa : Int) else (l.mantissa : Int)

end Literal

end Dynamo.Decimal
