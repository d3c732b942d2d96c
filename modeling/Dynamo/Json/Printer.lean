import Dynamo.Json
import Dynamo.Text.Hex

/-! # Writing JSON

The shortest text: no blanks, and in strings only what has to be escaped. -/

namespace Dynamo.Json

/-- One character of a string. -/
def escapeChar (c : Char) : List Char :=
  if c = '"' then ['\\', '"']
  else if c = '\\' then ['\\', '\\']
  else if c = '\n' then ['\\', 'n']
  else if c = '\r' then ['\\', 'r']
  else if c = '\t' then ['\\', 't']
  else if c = '\x08' then ['\\', 'b']
  else if c = '\x0C' then ['\\', 'f']
  else if c.toNat < 0x20 then
    ['\\', 'u', '0', '0', hexDigit (c.toNat / 16), hexDigit (c.toNat % 16)]
  else [c]

/-- The text of a string. -/
def quote (s : String) : String := String.ofList ('"' :: s.toList.flatMap escapeChar ++ ['"'])

mutual

/-- **The text of a value.** What is illegible has none, and is left as `null`. -/
def print : Json → String
  | .null => "null"
  | .bool true => "true"
  | .bool false => "false"
  | .num n => n.text
  | .str s => quote s
  | .arr items => "[" ++ ",".intercalate (printItems items) ++ "]"
  | .obj members => "\x7b" ++ ",".intercalate (printMembers members) ++ "\x7d"
  | .illegible => "null"

/-- The texts of the items of an array. -/
def printItems : List Json → List String
  | [] => []
  | j :: js => j.print :: printItems js

/-- The texts of the members of an object. -/
def printMembers : List (String × Json) → List String
  | [] => []
  | (name, j) :: ms => (quote name ++ ":" ++ j.print) :: printMembers ms

end

/-- The bytes of the text of a value. -/
def toBytes (j : Json) : Bytes := Bytes.ofString j.print

end Dynamo.Json
