import Dynamo.Text.Hex
import Dynamo.Text.Unprintable

/-! # Quoted texts

How error messages and value summaries show a text: between double quotes, so that its ends and its
unprintable characters are seen. -/

namespace Dynamo.Text

/-- The digits of `n` in base sixteen, without leading zeros. -/
def hexNat (n : Nat) : List Char := Nat.toDigits 16 n

/-- One character between quotes: a backslash before quotes and backslashes, short names for four
controls, `\u{…}` with the code point for what is not printed. -/
def quoteChar (c : Char) : List Char :=
  if c = '"' then ['\\', '"']
  else if c = '\\' then ['\\', '\\']
  else if c = '\n' then ['\\', 'n']
  else if c = '\r' then ['\\', 'r']
  else if c = '\t' then ['\\', 't']
  else if c = '\x00' then ['\\', '0']
  else if isUnprintable c then ['\\', 'u', '\x7b'] ++ hexNat c.toNat ++ ['\x7d']
  else [c]

/-- **The text between double quotes.** -/
def quoted (s : String) : String := String.ofList ('"' :: s.toList.flatMap quoteChar ++ ['"'])

/-- Several quoted texts between brackets. -/
def quotedList (ss : List String) : String := "[" ++ ", ".intercalate (ss.map quoted) ++ "]"

end Dynamo.Text
