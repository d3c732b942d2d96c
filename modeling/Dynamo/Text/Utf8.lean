/-! # Bytes and their text

Bytes on the wire are lists of octets. `Bytes.text?` reads them as UTF-8, `Bytes.lossyText` shows
them whatever they hold: what cannot be read becomes `U+FFFD`, one for each longest beginning of a
character that is not continued. -/

namespace Dynamo

/-- Octets, as they travel. -/
abbrev Bytes := List UInt8

namespace Bytes

/-- The UTF-8 bytes of a text. -/
def ofString (s : String) : Bytes := s.toUTF8.data.toList

/-- The text whose UTF-8 bytes these are. -/
def text? (bs : Bytes) : Option String := String.fromUTF8? ⟨bs.toArray⟩

/-- The ranges that the bytes after the first byte `b` of a character lie in; none for a byte that
begins no character. -/
def continuations (b : UInt8) : Option (List (UInt8 × UInt8)) :=
  let any : UInt8 × UInt8 := (0x80, 0xBF)
  if b < 0x80 then some []
  else if b < 0xC2 then none
  else if b < 0xE0 then some [any]
  else if b = 0xE0 then some [(0xA0, 0xBF), any]
  else if b = 0xED then some [(0x80, 0x9F), any]
  else if b < 0xF0 then some [any, any]
  else if b = 0xF0 then some [(0x90, 0xBF), any, any]
  else if b < 0xF4 then some [any, any, any]
  else if b = 0xF4 then some [(0x80, 0x8F), any, any]
  else none

/-- The longest beginning of `bs` whose bytes lie in the ranges, one byte for each range. -/
def matching : List (UInt8 × UInt8) → Bytes → Bytes
  | (lo, hi) :: ranges, b :: bs => if lo ≤ b ∧ b ≤ hi then b :: matching ranges bs else []
  | _, _ => []

/-- The code point that a first byte and the bytes after it stand for. -/
def codePoint (b : UInt8) (more : Bytes) : Nat :=
  let lead := match more.length with
    | 0 => b.toNat
    | 1 => b.toNat % 32
    | 2 => b.toNat % 16
    | _ => b.toNat % 8
  more.foldl (fun n c => n * 64 + c.toNat % 64) lead

/-- The characters of `bs`, with `U+FFFD` for what is not UTF-8. -/
def lossyChars : Bytes → List Char
  | [] => []
  | b :: bs =>
    match continuations b with
    | none => '\uFFFD' :: lossyChars bs
    | some ranges =>
      let more := matching ranges bs
      let c := if more.length = ranges.length then Char.ofNat (codePoint b more) else '\uFFFD'
      c :: lossyChars (bs.drop more.length)
  termination_by bs => bs.length
  decreasing_by all_goals simp only [List.length_cons, List.length_drop]; omega

/-- The bytes as a text, whatever they hold. -/
def lossyText (bs : Bytes) : String := String.ofList (lossyChars bs)

end Bytes

end Dynamo
