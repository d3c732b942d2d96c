import Dynamo.Decimal.Lemmas
import Dynamo.Dict

/-! # JSON values

Trees of JSON. Objects are member lists in the order of the text, in which a name may occur again.
The tree also holds what a text may contain in a place nobody reads: a token that is well-formed but
stands for no value is `illegible`.

* `Json.legible`: nothing in the tree is illegible. -/

namespace Dynamo

open Decimal

/-- A number of a JSON text: an integer of 64 bits, or the nearest binary number. -/
inductive JsonNumber where
  | int (i : Int)
  | float (x : Double)
  deriving DecidableEq, Inhabited

/-- **A JSON value.** -/
inductive Json where
  | null
  | bool (b : Bool)
  | num (n : JsonNumber)
  | str (s : String)
  | arr (items : List Json)
  | obj (members : List (String × Json))
  /-- A string that is not Unicode text, a number beyond all binary numbers, an object with such a
  name, or an array or object nested too deeply. -/
  | illegible
  deriving Inhabited

namespace Json

mutual

/-- Does every part of the value stand for something? -/
def legible : Json → Bool
  | .arr items => legibleItems items
  | .obj members => legibleMembers members
  | .illegible => false
  | _ => true

/-- The same for all items of an array. -/
def legibleItems : List Json → Bool
  | [] => true
  | j :: js => j.legible && legibleItems js

/-- The same for the values of all members of an object. -/
def legibleMembers : List (String × Json) → Bool
  | [] => true
  | (_, j) :: ms => j.legible && legibleMembers ms

end

/-- The value of an integer. -/
def ofInt (i : Int) : Json := .num (.int i)

/-- The value of a binary number; what is not finite has no JSON number. -/
def ofDouble (x : Double) : Json := if x.isFinite then .num (.float x) else .null

/-- The object of a dictionary. -/
def ofDict {α : Type} (f : α → Json) (m : Dict α) : Json :=
  .obj (m.entries.map fun e => (e.1, f e.2))

end Json

namespace JsonNumber

/-- How the texts of binary numbers choose between two decimals at the same distance. -/
def tie : Tie := .even

/-- The decimals whose digits stand at their places are those from `10^-5` on and below `10^16`; the
position of the point is counted from the first digit. -/
def isPositional (point : Int) : Bool := -5 < point && point ≤ 16

/-- The text of a positive binary number: always with a point or a power of ten. -/
def shortestText (s : Scaled) : List Char :=
  if isPositional (s.power + (digitsOf s.digits).length) then
    if 0 ≤ s.power then positional s ++ ['.', '0'] else positional s
  else scientific s

/-- **The text of a number.** -/
def chars : JsonNumber → List Char
  | .int i => intText i
  | .float x =>
    match x.parts with
    | .finite negative m q narrow =>
      signed negative (if m = 0 then ['0', '.', '0'] else shortestText (shortest tie m q narrow))
    | _ => ['n', 'u', 'l', 'l']

/-- The text of a number. -/
def text (n : JsonNumber) : String := String.ofList n.chars

end JsonNumber

end Dynamo
