import Dynamo.Text.Utf8

/-! # Base64

The standard alphabet, with padding. Reading accepts only what writing produces: the padding has to
be there, and bits that no byte takes have to be zero. Main statement: `decode?_encode`. -/

namespace Dynamo.Base64

/-- The character of a number below 64. -/
def digit (n : Nat) : Char :=
  if n < 26 then Char.ofNat (65 + n)
  else if n < 52 then Char.ofNat (71 + n)
  else if n < 62 then Char.ofNat (n - 4)
  else if n = 62 then '+' else '/'

/-- The number of a character of the alphabet. -/
def value? (c : Char) : Option Nat :=
  let n := c.toNat
  if 65 ≤ n ∧ n ≤ 90 then some (n - 65)
  else if 97 ≤ n ∧ n ≤ 122 then some (n - 71)
  else if 48 ≤ n ∧ n ≤ 57 then some (n + 4)
  else if c = '+' then some 62
  else if c = '/' then some 63
  else none

/-- Four characters for three bytes; a shorter end is filled up with `=`. -/
def encodeChars : Bytes → List Char
  | a :: b :: c :: bs =>
    digit (a.toNat / 4) :: digit (a.toNat % 4 * 16 + b.toNat / 16) ::
      digit (b.toNat % 16 * 4 + c.toNat / 64) :: digit (c.toNat % 64) :: encodeChars bs
  | [a, b] =>
    [digit (a.toNat / 4), digit (a.toNat % 4 * 16 + b.toNat / 16), digit (b.toNat % 16 * 4), '=']
  | [a] => [digit (a.toNat / 4), digit (a.toNat % 4 * 16), '=', '=']
  | [] => []

/-- The bytes of groups of four characters, of which only the last may be filled up. -/
def decodeChars? : List Char → Option Bytes
  | [] => some []
  | [a, b, '=', '='] => do
    let a ← value? a
    let b ← value? b
    if b % 16 = 0 then some [UInt8.ofNat (a * 4 + b / 16)] else none
  | [a, b, c, '='] => do
    let a ← value? a
    let b ← value? b
    let c ← value? c
    if c % 4 = 0 then
      some [UInt8.ofNat (a * 4 + b / 16), UInt8.ofNat (b % 16 * 16 + c / 4)]
    else none
  | a :: b :: c :: d :: cs => do
    let a ← value? a
    let b ← value? b
    let c ← value? c
    let d ← value? d
    let bs ← decodeChars? cs
    some (UInt8.ofNat (a * 4 + b / 16) :: UInt8.ofNat (b % 16 * 16 + c / 4) ::
      UInt8.ofNat (c % 4 * 64 + d) :: bs)
  | _ => none

/-- The text of the bytes. -/
def encode (bs : Bytes) : String := String.ofList (encodeChars bs)

/-- The bytes of a text. -/
def decode? (s : String) : Option Bytes := decodeChars? s.toList

theorem value?_digit : ∀ n < 64, value? (digit n) = some n := by decide

theorem digit_ne_pad : ∀ n < 64, digit n ≠ '=' := by decide

theorem decodeChars?_encodeChars (bs : Bytes) : decodeChars? (encodeChars bs) = some bs := by
  fun_induction encodeChars bs with
  | case1 a b c bs ih =>
    have ha := a.toNat_lt
    have hb := b.toNat_lt
    have hc := c.toNat_lt
    have h₁ := value?_digit (a.toNat / 4) (by omega)
    have h₂ := value?_digit (a.toNat % 4 * 16 + b.toNat / 16) (by omega)
    have h₃ := value?_digit (b.toNat % 16 * 4 + c.toNat / 64) (by omega)
    have h₄ := value?_digit (c.toNat % 64) (by omega)
    have hpad := digit_ne_pad (c.toNat % 64) (by omega)
    have e₁ : a.toNat / 4 * 4 + (a.toNat % 4 * 16 + b.toNat / 16) / 16 = a.toNat := by omega
    have e₂ : (a.toNat % 4 * 16 + b.toNat / 16) % 16 * 16 +
        (b.toNat % 16 * 4 + c.toNat / 64) / 4 = b.toNat := by omega
    have e₃ : (b.toNat % 16 * 4 + c.toNat / 64) % 4 * 64 + c.toNat % 64 = c.toNat := by omega
    rw [decodeChars?]
    · simp only [h₁, h₂, h₃, h₄, ih, bind, Option.bind, e₁, e₂, e₃, UInt8.ofNat_toNat]
    · intro _ h; exact absurd h hpad
    · intro h; exact absurd h hpad
  | case2 a b =>
    have ha := a.toNat_lt
    have hb := b.toNat_lt
    have h₁ := value?_digit (a.toNat / 4) (by omega)
    have h₂ := value?_digit (a.toNat % 4 * 16 + b.toNat / 16) (by omega)
    have h₃ := value?_digit (b.toNat % 16 * 4) (by omega)
    have hpad := digit_ne_pad (b.toNat % 16 * 4) (by omega)
    have e₁ : a.toNat / 4 * 4 + (a.toNat % 4 * 16 + b.toNat / 16) / 16 = a.toNat := by omega
    have e₂ : (a.toNat % 4 * 16 + b.toNat / 16) % 16 * 16 + b.toNat % 16 * 4 / 4 = b.toNat := by
      omega
    have e₃ : b.toNat % 16 * 4 % 4 = 0 := by omega
    rw [decodeChars?]
    · simp only [h₁, h₂, h₃, bind, Option.bind, e₁, e₂, e₃, UInt8.ofNat_toNat, if_true]
    · intro h; exact absurd h hpad
  | case3 a =>
    have ha := a.toNat_lt
    have h₁ := value?_digit (a.toNat / 4) (by omega)
    have h₂ := value?_digit (a.toNat % 4 * 16) (by omega)
    have e₁ : a.toNat / 4 * 4 + a.toNat % 4 * 16 / 16 = a.toNat := by omega
    have e₂ : a.toNat % 4 * 16 % 16 = 0 := by omega
    rw [decodeChars?]
    simp only [h₁, h₂, bind, Option.bind, e₁, e₂, UInt8.ofNat_toNat, if_true]
  | case4 => rfl

/-- Reading gives back the bytes a text was written from. -/
theorem decode?_encode (bs : Bytes) : decode? (encode bs) = some bs := by
  simp [decode?, encode, decodeChars?_encodeChars]

end Dynamo.Base64
