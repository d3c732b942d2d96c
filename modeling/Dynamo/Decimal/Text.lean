import Dynamo.Decimal.Shortest

/-! # Decimal texts of numbers

Two forms: digits at their places, and one digit before the point with a power of ten behind. -/

namespace Dynamo.Decimal

/-- The decimal digits of a number. -/
def digitsOf (n : Nat) : List Char := Nat.toDigits 10 n

/-- The decimal text of a number. -/
def natText (n : Nat) : String := String.ofList (digitsOf n)

/-- The decimal text of an integer. -/
def intText (i : Int) : List Char :=
  if i < 0 then '-' :: digitsOf i.natAbs else digitsOf i.natAbs

/-- The digits of `s` at their places; without a point if nothing would stand behind it. -/
def positional (s : Scaled) : List Char :=
  let digits := digitsOf s.digits
  if 0 ≤ s.power then digits ++ List.replicate s.power.toNat '0'
  else
    let places := (-s.power).toNat
    if places < digits.length then
      digits.take (digits.length - places) ++ '.' :: digits.drop (digits.length - places)
    else '0' :: '.' :: List.replicate (places - digits.length) '0' ++ digits

/-- One digit, the others behind a point, and the power of ten with its sign. -/
def scientific (s : Scaled) : List Char :=
  let digits := digitsOf s.digits
  let power := s.power + (digits.length - 1 : Nat)
  let significand := match digits with
    | [] => []
    | [d] => [d]
    | d :: ds => d :: '.' :: ds
  significand ++ 'e' :: (if power < 0 then '-' else '+') :: digitsOf power.natAbs

end Dynamo.Decimal
