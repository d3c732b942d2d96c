import Dynamo.Wire.Codec

/-! # Bindings of expressions

Expressions refer to values by placeholders such as `:v` and to attributes by aliases such as `#n`.
Bindings say what both stand for. They are never changed: binding more parameters gives new
bindings.

* `Bindings.bind` binds parameters: of several with one key the last counts, and an alias has to be
  bound to a string. -/

namespace Dynamo

/-- A key of expressions and what it is bound to. -/
structure Param where
  key : String
  value : Value
  deriving DecidableEq

/-- Is the key an alias of an attribute? -/
def Param.isName (p : Param) : Bool := p.key.toList.head? = some '#'

/-- Why parameters cannot be bound. -/
inductive ParamError where
  | nameNotString (key : String) (found : ValueKind)
  /-- Only aliases can be bound here. -/
  | valueNotAccepted (key : String)
  deriving DecidableEq, Repr

/-- The message of the error. -/
def ParamError.message : ParamError → String
  | .nameNotString key found =>
    "name alias " ++ key ++ " must be bound to a string, got " ++ found.name
  | .valueNotAccepted key => "value placeholder " ++ key ++ " is not accepted here"

/-- **What the keys of expressions stand for.** -/
structure Bindings where
  /-- The values of the placeholders. -/
  values : Document
  /-- The names of the aliases. -/
  names : Dict String
  deriving DecidableEq

namespace Param

/-- The aliases among the parameters, with their names; an alias of anything but a string is an
error. -/
def names : List Param → Except ParamError (Entries String)
  | [] => .ok []
  | p :: ps =>
    if p.isName then
      match p.value with
      | .string name => (names ps).map ((p.key, name) :: ·)
      | v => .error (.nameNotString p.key v.kind)
    else names ps

/-- The placeholders among the parameters, with their values. -/
def values (ps : List Param) : Entries Value :=
  (ps.filter fun p => !p.isName).map fun p => (p.key, p.value)

/-- The parameters that the attributes of a document are. -/
def ofDocument (m : Document) : List Param := m.map fun e => ⟨e.1, e.2⟩

end Param

namespace Bindings

/-- Nothing is bound. -/
def empty : Bindings := ⟨[], Dict.empty⟩

instance : Inhabited Bindings := ⟨empty⟩

/-- Is nothing bound? -/
def isEmpty (b : Bindings) : Bool := b.values.isEmpty && b.names.isEmpty

/-- **The bindings with more parameters bound**, one after the other. -/
def bind (b : Bindings) (params : List Param) : Except ParamError Bindings := do
  let names ← Param.names params
  return ⟨Entries.insertAll (Param.values params) b.values, b.names.insertAll names⟩

/-- The members that the bindings add to the body of a request; what is empty is left out. -/
def members (b : Bindings) : Except EncodeError (List (String × Json)) := do
  let values ←
    if b.values.isEmpty then pure []
    else do pure [("ExpressionAttributeValues", ← b.values.toJson)]
  let names :=
    if b.names.isEmpty then []
    else [("ExpressionAttributeNames", Json.ofDict .str b.names)]
  return values ++ names

/-- The bindings as a JSON object. -/
def toJson (b : Bindings) : Except EncodeError Json := b.members.map .obj

end Bindings

end Dynamo
