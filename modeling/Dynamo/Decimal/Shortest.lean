import Dynamo.Decimal.Binary

/-! # The shortest decimal of a binary number

Among the decimals that round to a binary number, those with the fewest digits, and of these the
nearest. A decimal is tried as one of the two neighbours of the number on a grid of powers of ten,
from the widest grid to the narrowest. -/

namespace Dynamo.Decimal

/-- A decimal `digits · 10^power`. -/
structure Scaled where
  digits : Nat
  power : Int
  deriving DecidableEq, Repr

/-- Which of two decimals at the same distance is taken. -/
inductive Tie where
  /-- The greater one. -/
  | up
  /-- The one whose last digit is even. -/
  | even
  deriving DecidableEq

/-- Is `a · 2^p` below `c · 10^e`? -/
def binaryLt (a : Nat) (p : Int) (c : Nat) (e : Int) : Bool :=
  a * Nat.pow 2 p.toNat * Nat.pow 10 (-e).toNat < c * Nat.pow 10 e.toNat * Nat.pow 2 (-p).toNat

/-- Is `c · 10^e` below `a · 2^p`? -/
def decimalLt (c : Nat) (e : Int) (a : Nat) (p : Int) : Bool :=
  c * Nat.pow 10 e.toNat * Nat.pow 2 (-p).toNat < a * Nat.pow 2 p.toNat * Nat.pow 10 (-e).toNat

/-- Does `c · 10^e` round to `m · 2^q`? The ends of the interval of such numbers belong to it if `m`
is even, and its lower half is half as long below the numbers called `narrow`. -/
def roundsTo (m : Nat) (q : Int) (narrow : Bool) (c : Nat) (e : Int) : Bool :=
  let low := if narrow then 4 * m - 1 else 4 * m - 2
  let high := 4 * m + 2
  if m % 2 = 0 then !decimalLt c e low (q - 2) && !binaryLt high (q - 2) c e
  else binaryLt low (q - 2) c e && decimalLt c e high (q - 2)

/-- The neighbour of `m · 2^q` on the grid of the multiples of `10^e` that rounds to it, the nearer
one if both do. -/
def onGrid? (tie : Tie) (m : Nat) (q : Int) (narrow : Bool) (e : Int) : Option Scaled :=
  let num := m * Nat.pow 2 q.toNat * Nat.pow 10 (-e).toNat
  let den := Nat.pow 10 e.toNat * Nat.pow 2 (-q).toNat
  let below := num / den
  let above := below + 1
  let twice := 2 * (num % den)
  let nearer := if twice < den then below else if den < twice then above else
    match tie with
    | .up => above
    | .even => below + below % 2
  let other := if nearer = below then above else below
  let fits (c : Nat) : Bool := c ≠ 0 && roundsTo m q narrow c e
  if fits nearer then some ⟨nearer, e⟩ else if fits other then some ⟨other, e⟩ else none

/-- A number not below the decimal logarithm of `m · 2^q`, and hardly above it. -/
def logBound (m : Nat) (q : Int) : Int := ((m.log2 : Int) + q) * 30103 / 100000 + 2

/-- **The shortest decimal of `m · 2^q`** for a positive `m`. -/
def shortest (tie : Tie) (m : Nat) (q : Int) (narrow : Bool) : Scaled :=
  let top := logBound m q
  ((List.range 25).findSome? fun i => onGrid? tie m q narrow (top - (i : Nat))).getD ⟨m, 0⟩

end Dynamo.Decimal
