/-! # Binary floating-point numbers

Numbers with a sign, a significand of bounded length and a bounded power of two, in the interchange
formats of 32 and 64 bits. All arithmetic is exact, on natural numbers: `Layout.parts` takes the
bits apart and `Layout.nearest` rounds a quotient to the nearest number of the format, a half to the
even neighbour. -/

namespace Dynamo.Decimal

/-- A binary number of 64 bits. -/
structure Double where
  bits : UInt64
  deriving DecidableEq, Inhabited

/-- A binary number of 32 bits. -/
structure Single where
  bits : UInt32
  deriving DecidableEq, Inhabited

/-- How the bits of a format are divided; the sign is the bit before the exponent. -/
structure Layout where
  fractionBits : Nat
  exponentBits : Nat

/-- The format of 64 bits. -/
def binary64 : Layout := ⟨52, 11⟩

/-- The format of 32 bits. -/
def binary32 : Layout := ⟨23, 8⟩

/-- What bits stand for. -/
inductive Parts where
  /-- `m · 2^q` with its sign; the number below is half as far as the one above if `narrow`. -/
  | finite (negative : Bool) (m : Nat) (q : Int) (narrow : Bool)
  | infinite (negative : Bool)
  | nan
  deriving DecidableEq

namespace Layout

/-- The exponent field of the infinities. -/
def topExponent (l : Layout) : Nat := Nat.pow 2 l.exponentBits - 1

/-- The power of two of the smallest numbers. -/
def leastPower (l : Layout) : Int := 2 - Nat.pow 2 (l.exponentBits - 1) - l.fractionBits

/-- The sign, as a summand of the bits. -/
def signBits (l : Layout) (negative : Bool) : Nat :=
  if negative then Nat.pow 2 (l.fractionBits + l.exponentBits) else 0

/-- The bits of the positive infinity. -/
def infinityBits (l : Layout) : Nat := l.topExponent * Nat.pow 2 l.fractionBits

/-- What the bits stand for. -/
def parts (l : Layout) (bits : Nat) : Parts :=
  let fraction := bits % Nat.pow 2 l.fractionBits
  let exponent := bits / Nat.pow 2 l.fractionBits % Nat.pow 2 l.exponentBits
  let negative := bits / Nat.pow 2 (l.fractionBits + l.exponentBits) % 2 = 1
  if exponent = l.topExponent then
    if fraction = 0 then .infinite negative else .nan
  else if exponent = 0 then .finite negative fraction l.leastPower false
  else
    .finite negative (Nat.pow 2 l.fractionBits + fraction) (l.leastPower + (exponent - 1 : Nat))
      (fraction = 0 && exponent ≠ 1)

/-- The greatest `k` with `2^k ≤ num / den`, for positive `num` and `den`. -/
def floorLog2 (num den : Nat) : Int :=
  let k : Int := (num.log2 : Int) - (den.log2 : Int)
  if num * Nat.pow 2 (-k).toNat < den * Nat.pow 2 k.toNat then k - 1 else k

/-- The quotient of two numbers, rounded to the nearest, a half to the even neighbour. -/
def roundDiv (num den : Nat) : Nat :=
  let d := num / den
  let r := 2 * (num % den)
  if r < den then d else if den < r then d + 1 else d + d % 2

/-- **The bits of the nearest number** to `num / den`, which is infinite from the middle between the
greatest number and the next power of two. -/
def nearest (l : Layout) (negative : Bool) (num den : Nat) : Nat :=
  let magnitude :=
    if num = 0 then 0
    else
      let q := max (floorLog2 num den - l.fractionBits) l.leastPower
      let m := roundDiv (num * Nat.pow 2 (-q).toNat) (den * Nat.pow 2 q.toNat)
      min ((q - l.leastPower).toNat * Nat.pow 2 l.fractionBits + m) l.infinityBits
  l.signBits negative + magnitude

end Layout

namespace Double

/-- What the bits stand for. -/
def parts (x : Double) : Parts := binary64.parts x.bits.toNat

/-- The nearest number to a quotient. -/
def ofRatio (negative : Bool) (num den : Nat) : Double :=
  ⟨UInt64.ofNat (binary64.nearest negative num den)⟩

/-- The nearest number to an integer. -/
def ofInt (i : Int) : Double := ofRatio (i < 0) i.natAbs 1

/-- Is the number neither infinite nor no number at all? -/
def isFinite (x : Double) : Bool :=
  match x.parts with
  | .finite .. => true
  | _ => false

/-- Is the number one of the two zeros? -/
def isZero (x : Double) : Bool :=
  match x.parts with
  | .finite _ m _ _ => m = 0
  | _ => false

/-- The positive zero. -/
def zero : Double := ⟨0⟩

/-- The nearest number to `m · 10^e`. Powers beyond those of the format are decided by the number of
digits alone. -/
def ofDecimal (negative : Bool) (m : Nat) (e : Int) : Double :=
  let size : Int := (Nat.toDigits 10 m).length + e
  if m = 0 ∨ size < -330 then ofRatio negative 0 1
  else if 320 < size then ⟨UInt64.ofNat (binary64.signBits negative + binary64.infinityBits)⟩
  else ofRatio negative (m * Nat.pow 10 e.toNat) (Nat.pow 10 (-e).toNat)

end Double

namespace Single

/-- What the bits stand for. -/
def parts (x : Single) : Parts := binary32.parts x.bits.toNat

end Single

end Dynamo.Decimal
