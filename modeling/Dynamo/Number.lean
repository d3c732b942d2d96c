import Dynamo.Decimal.Lemmas
import Dynamo.Text.Quoted

/-! # Numbers

A number is a decimal text, kept as it is written: precision is lost only where a program asks for
an integer or a binary number.

* `Number.ofString?` accepts exactly the texts with a decimal literal.
* `Number.toInteger` is exact or refuses; `Number.toDouble` rounds.
* `Number.ofInt`, `Number.ofParts?` write a number. -/

namespace Dynamo

open Decimal

/-- Why a text or a value is no number, or not one of the kind asked for. -/
inductive NumberError where
  /-- The text is no decimal text. -/
  | invalid (text : String)
  /-- The number is not among those of the target. -/
  | outOfRange (text : String) (target : String)
  /-- An infinity, or no number at all, has no decimal text. -/
  | nonFinite (text : String)
  deriving DecidableEq, Repr

/-- The message of the error. -/
def NumberError.message : NumberError → String
  | .invalid text => "invalid number: " ++ Text.quoted text
  | .outOfRange text target => "number " ++ text ++ " is not representable as " ++ target
  | .nonFinite text => "non-finite float " ++ text ++ " has no decimal representation"

/-- **A number**: a decimal text. -/
structure Number where
  text : String
  isDecimal : (Literal.ofChars? text.toList).isSome
  deriving DecidableEq

/-- A range of integers with zero among them, and the name that messages call it by. -/
structure IntegerRange where
  name : String
  least : Int
  greatest : Int
  least_nonpos : least ≤ 0
  greatest_nonneg : 0 ≤ greatest

namespace IntegerRange

/-- Signed integers of 64 bits. -/
def int64 : IntegerRange :=
  ⟨"i64", -0x8000000000000000, 0x7FFFFFFFFFFFFFFF, by decide, by decide⟩

/-- Signed integers of the machine's word, which has 64 bits. -/
def machine : IntegerRange :=
  ⟨"isize", -0x8000000000000000, 0x7FFFFFFFFFFFFFFF, by decide, by decide⟩

/-- Unsigned integers of 64 bits. -/
def nat64 : IntegerRange := ⟨"u64", 0, 0xFFFFFFFFFFFFFFFF, by decide, by decide⟩

/-- Is the integer in the range? -/
def contains (r : IntegerRange) (i : Int) : Bool := r.least ≤ i && i ≤ r.greatest

/-- The integer, if it is in the range. -/
def within? (r : IntegerRange) (i : Int) : Option Int := if r.contains i then some i else none

/-- May an integer of the range be written with a minus? -/
def allowsMinus (r : IntegerRange) : Bool := r.least < 0

/-- The integer with one more digit, which counts downwards behind a minus. Neither on the way nor at
the end may the range be left. -/
def push? (r : IntegerRange) (negative : Bool) (i : Int) (c : Char) : Option Int :=
  if c.isDigit then
    (r.within? (i * 10)).bind fun tens =>
      r.within? (if negative then tens - (c.toNat - 48 : Nat) else tens + (c.toNat - 48 : Nat))
  else none

/-- The integer that digits write, of which there has to be one at least. -/
def ofDigits? (r : IntegerRange) (negative : Bool) (cs : List Char) : Option Int :=
  if cs = [] then none else cs.foldlM (r.push? negative) 0

/-- **The integer that a text writes**, if it is in the range. A range without negative integers admits
no minus, not even before a zero. -/
def ofChars? (r : IntegerRange) : List Char → Option Int
  | '-' :: cs => if r.allowsMinus then r.ofDigits? true cs else none
  | cs => r.ofDigits? false cs

end IntegerRange

namespace Number

/-- The number with the given text. -/
def ofString? (s : String) : Except NumberError Number :=
  if h : (Literal.ofChars? s.toList).isSome then .ok ⟨s, h⟩ else .error (.invalid s)

/-- The number with the given characters. -/
def ofDecimalChars (cs : List Char) (h : (Literal.ofChars? cs).isSome) : Number :=
  ⟨String.ofList cs, by simpa using h⟩

/-- The parts of the text. -/
def literal (n : Number) : Literal := (Literal.ofChars? n.text.toList).get n.isDecimal

/-- **The integer that the text writes**, without point and exponent, if it is in the range. -/
def toInteger (r : IntegerRange) (n : Number) : Except NumberError Int :=
  match r.ofChars? n.text.toList with
  | some i => .ok i
  | none => .error (.outOfRange n.text r.name)

/-- The nearest binary number; infinite beyond the greatest one. -/
def toDouble (n : Number) : Double :=
  let l := n.literal
  Double.ofDecimal l.negative l.mantissa l.scale

/-- The number of an integer. -/
def ofInt (i : Int) : Number := ofDecimalChars (intText i) (Literal.isSome_ofChars?_intText i)

/-- How the texts of binary numbers choose between two decimals at the same distance. -/
def tie : Tie := .up

/-- The shortest decimal of a binary number, with its digits at their places. -/
def ofParts? : Parts → Except NumberError Number
  | .finite negative m q narrow =>
    let s := if m = 0 then ⟨0, 0⟩ else shortest tie m q narrow
    .ok (ofDecimalChars (signed negative (positional s))
      (Literal.isSome_ofChars?_positional negative s))
  | .infinite negative => .error (.nonFinite (if negative then "-inf" else "inf"))
  | .nan => .error (.nonFinite "NaN")

/-- The number of a binary number of 64 bits. -/
def ofDouble? (x : Double) : Except NumberError Number := ofParts? x.parts

/-- The number of a binary number of 32 bits. -/
def ofSingle? (x : Single) : Except NumberError Number := ofParts? x.parts

end Number

end Dynamo
