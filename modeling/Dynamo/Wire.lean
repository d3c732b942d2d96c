import Dynamo.Text.Base64
import Dynamo.Number
import Dynamo.Json

/-! # Typed values on the wire

The service writes each value as an object with one member, whose name is a type tag: `S` for a
string, `N` for the text of a number, `B` for base64, and so on. `WireValue` is what such an object
holds; the text of a number is not looked at.

* `WireValue.toJson` writes it, `WireValue.ofJson` reads it. -/

namespace Dynamo

/-- Why a JSON value cannot be read as what is asked for. -/
inductive ReadError where
  /-- The text is no JSON, or a value is of the wrong kind, missing or out of range. -/
  | malformed
  /-- A typed value without a member. -/
  | noTypeKey
  /-- A typed value with several members. -/
  | manyTypeKeys
  /-- A typed value whose member has no type tag as its name. -/
  | unknownTypeKey (name : String)
  /-- Something else than an object in the place of a typed value. -/
  | notTyped
  /-- The text of a number is no decimal text. -/
  | number (cause : NumberError)
  deriving DecidableEq, Repr

/-- **A typed value on the wire.** -/
inductive WireValue where
  | string (s : String)
  | number (text : String)
  | binary (bytes : Bytes)
  | stringSet (items : List String)
  | numberSet (texts : List String)
  | binarySet (items : List Bytes)
  | bool (b : Bool)
  | null
  | list (items : List WireValue)
  | map (entries : List (String × WireValue))
  deriving Inhabited

/-- The type tags, in the order in which messages list them. -/
inductive WireTag where
  | string
  | number
  | binary
  | stringSet
  | numberSet
  | binarySet
  | bool
  | null
  | list
  | map
  deriving DecidableEq, Repr

namespace WireTag

/-- The name of the member that a tag stands for. -/
def name : WireTag → String
  | .string => "S"
  | .number => "N"
  | .binary => "B"
  | .stringSet => "SS"
  | .numberSet => "NS"
  | .binarySet => "BS"
  | .bool => "BOOL"
  | .null => "NULL"
  | .list => "L"
  | .map => "M"

/-- All tags. -/
def all : List WireTag :=
  [.string, .number, .binary, .stringSet, .numberSet, .binarySet, .bool, .null, .list, .map]

/-- The tag with the given name. -/
def ofName? (s : String) : Option WireTag := all.find? fun t => t.name = s

theorem ofName?_name (t : WireTag) : ofName? t.name = some t := by cases t <;> decide

theorem name_of_ofName? {s : String} {t : WireTag} (h : ofName? s = some t) : t.name = s := by
  simpa using List.find?_some h

end WireTag

namespace WireValue

/-- The type tag of a value. -/
def tag : WireValue → WireTag
  | .string _ => .string
  | .number _ => .number
  | .binary _ => .binary
  | .stringSet _ => .stringSet
  | .numberSet _ => .numberSet
  | .binarySet _ => .binarySet
  | .bool _ => .bool
  | .null => .null
  | .list _ => .list
  | .map _ => .map

/-- The payload in a summary: long ones are counted. -/
def payloadSummary : WireValue → String
  | .string s => s
  | .number text => text
  | .binary bytes => Decimal.natText bytes.length ++ " bytes"
  | .stringSet items => Text.quotedList items
  | .numberSet texts => Text.quotedList texts
  | .binarySet items => Decimal.natText items.length ++ " items"
  | .bool b => if b then "true" else "false"
  | .null => "true"
  | .list items => Decimal.natText items.length ++ " items"
  | .map entries => Decimal.natText entries.length ++ " keys"

/-- One line about the value. -/
def summary (w : WireValue) : String := "\x7b" ++ w.tag.name ++ ": " ++ w.payloadSummary ++ "\x7d"

/-! ### Writing -/

mutual

/-- **The typed JSON of a value.** -/
def toJson : WireValue → Json
  | .string s => .obj [(WireTag.string.name, .str s)]
  | .number text => .obj [(WireTag.number.name, .str text)]
  | .binary bytes => .obj [(WireTag.binary.name, .str (Base64.encode bytes))]
  | .stringSet items => .obj [(WireTag.stringSet.name, .arr (items.map .str))]
  | .numberSet texts => .obj [(WireTag.numberSet.name, .arr (texts.map .str))]
  | .binarySet items =>
    .obj [(WireTag.binarySet.name, .arr (items.map fun b => .str (Base64.encode b)))]
  | .bool b => .obj [(WireTag.bool.name, .bool b)]
  | .null => .obj [(WireTag.null.name, .bool true)]
  | .list items => .obj [(WireTag.list.name, .arr (itemsToJson items))]
  | .map entries => .obj [(WireTag.map.name, .obj (entriesToJson entries))]

/-- The typed JSON of the items of a list. -/
def itemsToJson : List WireValue → List Json
  | [] => []
  | w :: ws => w.toJson :: itemsToJson ws

/-- The typed JSON of the entries of a map. -/
def entriesToJson : List (String × WireValue) → List (String × Json)
  | [] => []
  | (k, w) :: m => (k, w.toJson) :: entriesToJson m

end

/-! ### Reading -/

/-- A string. -/
def stringOf : Json → Except ReadError String
  | .str s => .ok s
  | _ => .error .malformed

/-- A truth value. -/
def boolOf : Json → Except ReadError Bool
  | .bool b => .ok b
  | _ => .error .malformed

/-- An array of strings. -/
def stringsOf : Json → Except ReadError (List String)
  | .arr items => items.mapM stringOf
  | _ => .error .malformed

/-- The bytes of a base64 text. -/
def bytesOf (s : String) : Except ReadError Bytes :=
  match Base64.decode? s with
  | some bytes => .ok bytes
  | none => .error .malformed

mutual

/-- **The typed value of a JSON value**: an object with exactly one member, named by a type tag. -/
def ofJson : Json → Except ReadError WireValue
  | .obj [] => .error .noTypeKey
  | .obj ((name, payload) :: more) =>
    match WireTag.ofName? name with
    | none => .error (.unknownTypeKey name)
    | some tag => do
      let w ← ofPayload tag payload
      if more.isEmpty then .ok w else .error .manyTypeKeys
  | .illegible => .error .malformed
  | _ => .error .notTyped

/-- The typed value with a tag and a payload. Null carries a truth value, which does not matter. -/
def ofPayload : WireTag → Json → Except ReadError WireValue
  | .string, j => return .string (← stringOf j)
  | .number, j => return .number (← stringOf j)
  | .binary, j => do return .binary (← bytesOf (← stringOf j))
  | .stringSet, j => return .stringSet (← stringsOf j)
  | .numberSet, j => return .numberSet (← stringsOf j)
  | .binarySet, j => do return .binarySet (← (← stringsOf j).mapM bytesOf)
  | .bool, j => return .bool (← boolOf j)
  | .null, j => do
    let _ ← boolOf j
    return .null
  | .list, .arr items => return .list (← itemsOfJson items)
  | .map, .obj members => return .map (Entries.ofList (← entriesOfJson members))
  | _, _ => .error .malformed

/-- The typed values of an array. -/
def itemsOfJson : List Json → Except ReadError (List WireValue)
  | [] => .ok []
  | j :: js => do
    let w ← ofJson j
    let ws ← itemsOfJson js
    return w :: ws

/-- The typed values of the members of an object. -/
def entriesOfJson : List (String × Json) → Except ReadError (List (String × WireValue))
  | [] => .ok []
  | (k, j) :: ms => do
    let w ← ofJson j
    let m ← entriesOfJson ms
    return (k, w) :: m

end

/-- The typed values of the members of an object; of several members of one name the last counts. -/
def mapOfJson : Json → Except ReadError (Entries WireValue)
  | .obj members => return Entries.ofList (← entriesOfJson members)
  | _ => .error .malformed

end WireValue

/-- The message of the error, if it is one that this library words itself. -/
def ReadError.message? : ReadError → Option String
  | .malformed => none
  | .noTypeKey => some "typed value has no type key"
  | .manyTypeKeys => some "typed value has more than one type key"
  | .unknownTypeKey name =>
    some ("unknown field \x60" ++ name ++ "\x60, expected one of " ++
      ", ".intercalate (WireTag.all.map fun t => "\x60" ++ t.name ++ "\x60"))
  | .notTyped => some "expected a typed value object with exactly one type key"
  | .number cause => some ("invalid number in wire value: " ++ cause.message)

end Dynamo
