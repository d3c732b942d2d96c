import Dynamo.Text.Utf8

/-! # Hexadecimal text

Two lower-case digits for each byte. Main statement: `ofHex?_hex`, reading undoes writing. -/

namespace Dynamo

/-- The digit of a number below sixteen. -/
def hexDigit (n : Nat) : Char :=
  if n < 10 then Char.ofNat (48 + n) else Char.ofNat (87 + n)

/-- The number of a digit, in either case. -/
def hexValue? (c : Char) : Option Nat :=
  let n := c.toNat
  if 48 ≤ n ∧ n ≤ 57 then some (n - 48)
  else if 97 ≤ n ∧ n ≤ 102 then some (n - 87)
  else if 65 ≤ n ∧ n ≤ 70 then some (n - 55)
  else none

namespace Bytes

/-- Two digits for each byte. -/
def hexChars (bs : Bytes) : List Char :=
  bs.flatMap fun b => [hexDigit (b.toNat / 16), hexDigit (b.toNat % 16)]

/-- The hexadecimal text of the bytes. -/
def hex (bs : Bytes) : String := String.ofList (hexChars bs)

/-- The bytes that pairs of digits stand for. -/
def ofHexChars? : List Char → Option Bytes
  | [] => some []
  | a :: b :: cs => do
    let hi ← hexValue? a
    let lo ← hexValue? b
    let bs ← ofHexChars? cs
    some (UInt8.ofNat (hi * 16 + lo) :: bs)
  | [_] => none

/-- The bytes that a hexadecimal text stands for. -/
def ofHex? (s : String) : Option Bytes := ofHexChars? s.toList

theorem hexValue?_hexDigit : ∀ n < 16, hexValue? (hexDigit n) = some n := by decide

theorem ofHexChars?_hexChars (bs : Bytes) : ofHexChars? (hexChars bs) = some bs := by
  induction bs with
  | nil => rfl
  | cons b bs ih =>
    have hb : b.toNat < 256 := b.toNat_lt
    have h₁ := hexValue?_hexDigit (b.toNat / 16) (by omega)
    have h₂ := hexValue?_hexDigit (b.toNat % 16) (by omega)
    have h₃ : b.toNat / 16 * 16 + b.toNat % 16 = b.toNat := by omega
    change ofHexChars? (hexDigit _ :: hexDigit _ :: hexChars bs) = _
    simp only [ofHexChars?, h₁, h₂, ih, bind, Option.bind, h₃, UInt8.ofNat_toNat]

/-- Reading a hexadecimal text gives back the bytes it was written from. -/
theorem ofHex?_hex (bs : Bytes) : ofHex? (hex bs) = some bs := by
  simp [ofHex?, hex, ofHexChars?_hexChars]

theorem hex_injective {bs bs' : Bytes} (h : hex bs = hex bs') : bs = bs' :=
  Option.some.inj ((ofHex?_hex bs).symm.trans (h ▸ ofHex?_hex bs'))

theorem forall_mem_hex {p : Char → Prop} (hp : ∀ n < 16, p (hexDigit n)) (bs : Bytes) :
    ∀ c ∈ (hex bs).toList, p c := by
  intro c hc
  rw [hex, String.toList_ofList] at hc
  obtain ⟨b, -, hb⟩ := List.mem_flatMap.mp hc
  have hlt : b.toNat < 256 := b.toNat_lt
  rcases List.mem_cons.mp hb with rfl | hb
  · exact hp _ (by omega)
  · rw [List.mem_singleton.mp hb]
    exact hp _ (by omega)

theorem notMem_hex {c : Char} (hc : ∀ n < 16, hexDigit n ≠ c) (bs : Bytes) :
    c ∉ (hex bs).toList := by
  have hne : ∀ d ∈ (hex bs).toList, d ≠ c := forall_mem_hex hc bs
  exact fun h => hne c h rfl

end Bytes

end Dynamo
