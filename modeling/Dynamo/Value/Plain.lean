import Dynamo.Wire.Codec

/-! # Values of plain JSON

Plain JSON, without type tags, becomes a value: arrays become lists, objects documents, and a number
keeps the text that JSON writes it with. Sets and binary values do not arise. -/

namespace Dynamo

namespace Value

mutual

/-- **The value of a JSON value.** -/
def ofJson : Json → Except EncodeError Value
  | .null => .ok .null
  | .bool b => .ok (.bool b)
  | .num n => ((Number.ofString? n.text).map .number).mapError .number
  | .str s => .ok (.string s)
  | .arr items => (itemsOfJson items).map .list
  | .obj members => (entriesOfJson members).map fun m => .document (Entries.ofList m)
  | .illegible => .error .illegible

/-- The values of the items of an array. -/
def itemsOfJson : List Json → Except EncodeError (List Value)
  | [] => .ok []
  | j :: js => do
    let v ← ofJson j
    let vs ← itemsOfJson js
    return v :: vs

/-- The values of the members of an object. -/
def entriesOfJson : List (String × Json) → Except EncodeError (List (String × Value))
  | [] => .ok []
  | (k, j) :: ms => do
    let v ← ofJson j
    let m ← entriesOfJson ms
    return (k, v) :: m

end

end Value

namespace Document

/-- The document of a JSON object. -/
def ofJson (j : Json) : Except EncodeError Document := do
  match ← Value.ofJson j with
  | .document m => .ok m
  | v => .error (.notRecord v.kind)

/-- The text that a JSON value is as a name. -/
def nameOf? : Json → Option String
  | .str s => some s
  | .num n => some n.text
  | .bool b => some (if b then "true" else "false")
  | _ => none

/-- The document of a record with names and values in JSON; of several values of one name the last
counts. -/
def ofPairs (pairs : List (Json × Json)) : Except EncodeError Document := do
  let entries ← pairs.mapM fun (name, j) => do
    match nameOf? name with
    | none => .error .unsupportedName
    | some k => return (k, ← Value.ofJson j)
  return Entries.ofList entries

end Document

end Dynamo
