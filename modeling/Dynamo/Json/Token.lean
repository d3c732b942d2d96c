import Dynamo.Json
import Dynamo.Text.Hex

/-! # The tokens of a JSON text

A text is cut into tokens byte by byte. Strings are read in two steps: `pieces?` undoes the escapes,
`assemble` joins the halves of surrogate pairs. A half without its partner gets the three bytes that
UTF-8 refuses, so that a string is legible if and only if its bytes are UTF-8. -/

namespace Dynamo.Json

open Decimal

/-- A token. The text of a string is missing if it is illegible. -/
inductive Token where
  | beginObject
  | endObject
  | beginArray
  | endArray
  | colon
  | comma
  | text (s : Option String)
  | scalar (j : Json)

/-! ### Strings -/

/-- A byte of a string as it stands, or a UTF-16 unit given by an escape. -/
inductive Piece where
  | byte (b : UInt8)
  | unit (u : Nat)

/-- The number that four hexadecimal digits write. -/
def unit? (a b c d : UInt8) : Option Nat := do
  let digit (x : UInt8) : Option Nat := hexValue? (Char.ofNat x.toNat)
  return (((← digit a) * 16 + (← digit b)) * 16 + (← digit c)) * 16 + (← digit d)

/-- The byte that a one-letter escape stands for. -/
def shortEscape? (b : UInt8) : Option UInt8 :=
  match Char.ofNat b.toNat with
  | '"' => some 0x22
  | '\\' => some 0x5C
  | '/' => some 0x2F
  | 'b' => some 0x08
  | 'f' => some 0x0C
  | 'n' => some 0x0A
  | 'r' => some 0x0D
  | 't' => some 0x09
  | _ => none

/-- The pieces of what stands between the quotes of a string. -/
def pieces? : Bytes → Option (List Piece)
  | 0x5C :: 0x75 :: a :: b :: c :: d :: bs => do
    let u ← unit? a b c d
    let ps ← pieces? bs
    some (.unit u :: ps)
  | 0x5C :: b :: bs => do
    let e ← shortEscape? b
    let ps ← pieces? bs
    some (.byte e :: ps)
  | 0x5C :: [] => none
  | b :: bs => (pieces? bs).map (.byte b :: ·)
  | [] => some []

/-- The bytes of a code point, by the rule of UTF-8. -/
def pointBytes (n : Nat) : Bytes :=
  let tail (k : Nat) : UInt8 := UInt8.ofNat (0x80 + n / Nat.pow 64 k % 64)
  if n < 0x80 then [UInt8.ofNat n]
  else if n < 0x800 then [UInt8.ofNat (0xC0 + n / 64), tail 0]
  else if n < 0x10000 then [UInt8.ofNat (0xE0 + n / 4096), tail 1, tail 0]
  else [UInt8.ofNat (0xF0 + n / 262144), tail 2, tail 1, tail 0]

/-- Is the unit the first half of a pair? -/
def isHigh (u : Nat) : Bool := 0xD800 ≤ u && u < 0xDC00

/-- Is the unit the second half of a pair? -/
def isLow (u : Nat) : Bool := 0xDC00 ≤ u && u < 0xE000

/-- The bytes of a list of pieces. -/
def assemble : List Piece → Bytes
  | .unit u :: .unit v :: ps =>
    if isHigh u && isLow v then
      pointBytes (0x10000 + (u - 0xD800) * 1024 + (v - 0xDC00)) ++ assemble ps
    else pointBytes u ++ assemble (.unit v :: ps)
  | .unit u :: ps => pointBytes u ++ assemble ps
  | .byte b :: ps => b :: assemble ps
  | [] => []

/-- The token of a string. -/
def textToken? (bs : Bytes) : Option Token :=
  (pieces? bs).map fun ps => .text (assemble ps).text?

/-! ### Numbers -/

/-- Is the literal a JSON number: digits on both sides of a point, and no needless leading zero? -/
def isJsonNumber (l : Literal) : Bool :=
  !l.whole.isEmpty && (l.whole.length = 1 || l.whole.head? ≠ some '0') && l.fraction ≠ some []

/-- Does the integer fit into 64 bits, with a sign or without? -/
def fitsWord (i : Int) : Bool := -0x8000000000000000 ≤ i && i < 0x10000000000000000

/-- The value of a JSON number. Integers of 64 bits stay exact, but for the negative zero. -/
def numberOf (l : Literal) : Json :=
  if l.isInteger && fitsWord l.toInt && !(l.negative && l.toInt = 0) then
    .num (.int l.toInt)
  else
    let x := Double.ofDecimal l.negative l.mantissa l.scale
    if x.isFinite then .num (.float x) else .illegible

/-- The token of a number. -/
def numberToken? (bs : Bytes) : Option Token := do
  let l ← Literal.ofChars? (bs.map fun b => Char.ofNat b.toNat)
  if isJsonNumber l then some (.scalar (numberOf l)) else none

/-! ### The text -/

/-- What the bytes read so far end in. -/
inductive Ending where
  | complete
  /-- One of the names `null`, `true` and `false`: what is left of it, and its value. -/
  | name (left : Bytes) (j : Json)
  /-- A number, its bytes in reverse. -/
  | number (bytes : Bytes)
  /-- A string, its bytes in reverse, and whether a backslash was the last. -/
  | text (bytes : Bytes) (escaped : Bool)

/-- May the byte stand between tokens? -/
def isSpace (b : UInt8) : Bool := b = 0x20 || b = 0x0A || b = 0x0D || b = 0x09

namespace Ending

/-- Is no token begun? -/
def isComplete : Ending → Bool
  | .complete => true
  | _ => false

/-- Can the byte be part of a number? -/
def isNumberByte (b : UInt8) : Bool :=
  (0x30 ≤ b && b ≤ 0x39) || b = 0x2B || b = 0x2D || b = 0x2E || b = 0x45 || b = 0x65

/-- A byte after a complete token: the token that it is, and what follows; nothing follows a byte
that begins no token. -/
def afterToken (b : UInt8) : List Token × Option Ending :=
  let single (t : Token) : List Token × Option Ending := ([t], some .complete)
  if isSpace b then ([], some .complete)
  else
    match Char.ofNat b.toNat with
    | '\x7b' => single .beginObject
    | '\x7d' => single .endObject
    | '[' => single .beginArray
    | ']' => single .endArray
    | ':' => single .colon
    | ',' => single .comma
    | '"' => ([], some (.text [] false))
    | 'n' => ([], some (.name (Bytes.ofString "ull") .null))
    | 't' => ([], some (.name (Bytes.ofString "rue") (.bool true)))
    | 'f' => ([], some (.name (Bytes.ofString "alse") (.bool false)))
    | _ => ([], if isNumberByte b then some (.number [b]) else none)

/-- **Reads one byte**: the tokens that are complete with it, and what follows them, if anything
can. -/
def step (e : Ending) (b : UInt8) : List Token × Option Ending :=
  match e with
  | .complete => afterToken b
  | .name left j =>
    match left with
    | [c] => if b = c then ([.scalar j], some .complete) else ([], none)
    | c :: left => ([], if b = c then some (.name left j) else none)
    | [] => ([], none)
  | .number bytes =>
    if isNumberByte b then ([], some (.number (b :: bytes)))
    else
      match numberToken? bytes.reverse with
      | none => ([], none)
      | some t => (t :: (afterToken b).1, (afterToken b).2)
  | .text bytes true => ([], some (.text (b :: bytes) false))
  | .text bytes false =>
    if b = 0x22 then
      match textToken? bytes.reverse with
      | none => ([], none)
      | some t => ([t], some .complete)
    else if b = 0x5C then ([], some (.text (b :: bytes) true))
    else if b < 0x20 then ([], none)
    else ([], some (.text (b :: bytes) false))

/-- The tokens that are complete at the end of the text; nothing may follow if that is no place to
end. -/
def finish : Ending → List Token × Option Ending
  | .complete => ([], some .complete)
  | .number bytes =>
    match numberToken? bytes.reverse with
    | none => ([], none)
    | some t => ([t], some .complete)
  | .name .. | .text .. => ([], none)

end Ending

end Dynamo.Json
