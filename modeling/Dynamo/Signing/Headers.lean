import Dynamo.Text.Utf8

/-! # Headers of requests

A header has a name, compared without regard to case, and bytes as its value. A name may occur more
than once. -/

namespace Dynamo

/-- The text with the letters `A` to `Z` in lower case. -/
def lowerAscii (s : String) : String := String.ofList (s.toList.map Char.toLower)

/-- **Headers**, with names in lower case, in the order in which they were added. -/
abbrev Headers := List (String × Bytes)

namespace Headers

/-- Takes out all headers with the name. -/
def remove (name : String) (hs : Headers) : Headers := hs.filter fun h => h.1 ≠ lowerAscii name

/-- Adds a header to those that are there. -/
def append (name : String) (value : Bytes) (hs : Headers) : Headers :=
  hs ++ [(lowerAscii name, value)]

/-- Sets a header, instead of all with the same name. -/
def insert (name : String) (value : Bytes) (hs : Headers) : Headers :=
  (hs.remove name).append name value

/-- The value of the first header with the name. -/
def first? (name : String) (hs : Headers) : Option Bytes := hs.lookup (lowerAscii name)

/-- The names, each once, in the order of their first headers. -/
def names (hs : Headers) : List String :=
  hs.foldl (fun ns h => if ns.contains h.1 then ns else ns ++ [h.1]) []

/-- Is the byte a printable one of ASCII, or a tab? -/
def isVisible (b : UInt8) : Bool := (32 ≤ b && b < 127) || b = 9

/-- May the byte stand in the value of a header? -/
def isAllowed (b : UInt8) : Bool := (32 ≤ b && b ≠ 127) || b = 9

/-- The text of a value of printable bytes. -/
def visibleText? (value : Bytes) : Option String :=
  if value.all isVisible then value.text? else none

/-- The value that a text is, if its bytes may stand in a header. -/
def value? (s : String) : Option Bytes :=
  let bs := Bytes.ofString s
  if bs.all isAllowed then some bs else none

end Headers

end Dynamo
