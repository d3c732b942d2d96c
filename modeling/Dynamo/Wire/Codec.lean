import Dynamo.Value
import Dynamo.Wire

/-! # From values to the wire and back

Empty lists and sets never travel. An attribute of a document that holds one is left out, at every
level; anywhere else, as an item of a list or as the value itself, it is an error.

* `Value.toWire`, `Document.toWire`: to the wire.
* `Value.ofWire`, `Document.ofWire`: back; here number texts are looked at. -/

namespace Dynamo

/-- Why a value cannot travel, or something else cannot become a value. -/
inductive EncodeError where
  | emptyCollection (kind : ValueKind)
  | number (cause : NumberError)
  /-- A record was asked for. -/
  | notRecord (found : ValueKind)
  /-- A name of a record is neither a text, a number nor a truth value. -/
  | unsupportedName
  /-- A part of a JSON value that stands for nothing. -/
  | illegible
  deriving DecidableEq, Repr

/-- The message of the error, if it is one that this library words itself. -/
def EncodeError.message? : EncodeError → Option String
  | .emptyCollection kind => some ("empty " ++ kind.name ++ " cannot be sent on the wire")
  | .number cause => some cause.message
  | .notRecord found => some ("unsupported value: expected a record, got " ++ found.name)
  | .unsupportedName => none
  | .illegible => none

namespace Value

mutual

/-- **The value as it travels.** -/
def toWire (v : Value) : Except EncodeError WireValue :=
  if v.isEmptyCollection then .error (.emptyCollection v.kind)
  else
    match v with
    | .string s => .ok (.string s)
    | .number n => .ok (.number n.text)
    | .binary bytes => .ok (.binary bytes)
    | .bool b => .ok (.bool b)
    | .null => .ok .null
    | .stringSet items => .ok (.stringSet items)
    | .numberSet items => .ok (.numberSet (items.map (·.text)))
    | .binarySet items => .ok (.binarySet items)
    | .list items => (itemsToWire items).map .list
    | .document m => (entriesToWire m).map .map

/-- The items of a list as they travel. -/
def itemsToWire : List Value → Except EncodeError (List WireValue)
  | [] => .ok []
  | v :: vs => do
    let w ← v.toWire
    let ws ← itemsToWire vs
    return w :: ws

/-- The attributes of a document as they travel, without empty lists and sets. -/
def entriesToWire : List (String × Value) → Except EncodeError (List (String × WireValue))
  | [] => .ok []
  | (k, v) :: m =>
    if v.isEmptyCollection then entriesToWire m
    else do
      let w ← v.toWire
      let ws ← entriesToWire m
      return (k, w) :: ws

end

mutual

/-- **The value that has travelled**, if all its number texts are decimal texts. -/
def ofWire : WireValue → Except NumberError Value
  | .string s => .ok (.string s)
  | .number text => (Number.ofString? text).map .number
  | .binary bytes => .ok (.binary bytes)
  | .bool b => .ok (.bool b)
  | .null => .ok .null
  | .stringSet items => .ok (.stringSet items)
  | .numberSet texts => (texts.mapM Number.ofString?).map .numberSet
  | .binarySet items => .ok (.binarySet items)
  | .list items => (itemsOfWire items).map .list
  | .map entries => (entriesOfWire entries).map .document

/-- The items of a list that has travelled. -/
def itemsOfWire : List WireValue → Except NumberError (List Value)
  | [] => .ok []
  | w :: ws => do
    let v ← ofWire w
    let vs ← itemsOfWire ws
    return v :: vs

/-- The attributes of a document that has travelled. -/
def entriesOfWire : List (String × WireValue) → Except NumberError (List (String × Value))
  | [] => .ok []
  | (k, w) :: m => do
    let v ← ofWire w
    let vs ← entriesOfWire m
    return (k, v) :: vs

end

/-- The typed JSON of a value. -/
def toJson (v : Value) : Except EncodeError Json := v.toWire.map WireValue.toJson

/-- The value of a typed JSON value. -/
def ofTypedJson (j : Json) : Except ReadError Value := do
  (ofWire (← WireValue.ofJson j)).mapError .number

end Value

namespace Document

/-- The attributes as they travel. -/
def toWire (m : Document) : Except EncodeError (Entries WireValue) := Value.entriesToWire m

/-- The document that has travelled. -/
def ofWire (m : Entries WireValue) : Except NumberError Document := Value.entriesOfWire m

/-- The JSON object of a document, its values typed. -/
def toJson (m : Document) : Except EncodeError Json :=
  m.toWire.map fun entries => .obj (WireValue.entriesToJson entries)

/-- The document of a JSON object with typed values. -/
def ofTypedJson (j : Json) : Except ReadError Document := do
  (ofWire (← WireValue.mapOfJson j)).mapError .number

end Document

end Dynamo
