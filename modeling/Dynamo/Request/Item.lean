import Dynamo.Bindings.Places
import Dynamo.Error
import Dynamo.Request.Item.Input

/-! # Requests about items

A request is built setting by setting. It is never changed: a setting gives a new request, so that
one request can be the beginning of many. Parameters come with the expressions that use them, or
alone. The first fault in them stays with the request, and later parameters are not bound any more.

* `ItemRequest.set`: the request with one more setting.
* `ItemRequest.check`: what is wrong with a request, before anybody sends it.
* `ItemRequest.next?`: the request for the page after a page. -/

namespace Dynamo

/-- What can be set on a request about items. -/
inductive ItemSetting where
  | expression (slot : Slot) (text : String) (params : List Param)
  | bind (params : List Param)
  | indexName (name : String)
  | select (select : Select)
  | limit (limit : UInt32)
  | consistentRead (consistent : Bool)
  | scanIndexForward (forward : Bool)
  | segment (segment : Segment)
  | exclusiveStartKey (key : Document)
  | returnValues (values : ReturnValues)
  | returnConsumedCapacity (detail : CapacityDetail)
  deriving DecidableEq

/-- The parameters that a setting binds. -/
def ItemSetting.params : ItemSetting → List Param
  | .expression _ _ params | .bind params => params
  | _ => []

/-- Can this be set on requests for the operation? -/
def ItemOperation.takes (op : ItemOperation) : ItemSetting → Bool
  | .expression slot .. => op.slots.contains slot
  | .bind _ | .returnConsumedCapacity _ => true
  | .returnValues _ => op.writes
  | .consistentRead _ => !op.writes
  | .indexName _ | .select _ | .limit _ | .exclusiveStartKey _ => op.isPaged
  | .scanIndexForward _ => op = .query
  | .segment _ => op = .scan

/-- The settings of requests for an operation. -/
abbrev ItemOperation.Setting (op : ItemOperation) := { s : ItemSetting // op.takes s = true }

/-- **A request about items.** -/
structure ItemRequest (op : ItemOperation) where
  input : ItemInput op
  /-- The first fault in the parameters. -/
  fault : Option ParamError := none
  deriving DecidableEq

namespace ItemRequest

variable {op : ItemOperation}

/-- The request with nothing set. -/
def new (tableName : String) (subject : Document) : ItemRequest op :=
  { input := { tableName, subject } }

/-- Binds parameters, unless a fault was found before. -/
def bind (params : List Param) (r : ItemRequest op) : ItemRequest op :=
  match r.fault with
  | some _ => r
  | none =>
    match r.input.bindings.bind params with
    | .ok bindings => { r with input := { r.input with bindings } }
    | .error e => { r with fault := some e }

/-- What a setting sets besides the parameters. -/
def setInput (s : ItemSetting) (i : ItemInput op) : ItemInput op :=
  match s with
  | .expression slot text _ => { i with expressions := i.expressions.set slot text }
  | .bind _ => i
  | .indexName name => { i with indexName := some name }
  | .select select => { i with select := some select }
  | .limit limit => { i with limit := some limit }
  | .consistentRead consistent => { i with consistentRead := consistent }
  | .scanIndexForward forward => { i with scanIndexForward := some forward }
  | .segment segment => { i with segment := some segment }
  | .exclusiveStartKey key => { i with exclusiveStartKey := some key }
  | .returnValues values => { i with returnValues := some values }
  | .returnConsumedCapacity detail => { i with returnConsumedCapacity := some detail }

/-- **The request with one more setting.** -/
def set (r : ItemRequest op) (s : op.Setting) : ItemRequest op :=
  { r with input := setInput s.1 r.input }.bind s.1.params

/-- The places of the bindings after a setting, with a place for what it changes. -/
def placesAfter (place : Nat) (s : op.Setting) (r : ItemRequest op) (p : Places) : Places :=
  if (r.set s).fault.isNone then p.bind place s.1.params else p

/-- **Looks for what is wrong with the request**: a fault in the parameters, or a document that has
no wire form. -/
def check (r : ItemRequest op) : Except Error Unit := do
  Error.checkParams r.fault
  Error.checkDocuments r.input.documents

/-- **The request for the page after a page**, if there is more. -/
def next? (r : ItemRequest op) (page : PageOutput) : Option (ItemRequest op) :=
  match page.lastEvaluatedKey with
  | some key =>
    if key.isEmpty then none
    else some { r with input := { r.input with exclusiveStartKey := some key } }
  | none => none

/-! ### Settings and parameters -/

theorem bind_of_fault {r : ItemRequest op} {e : ParamError} (h : r.fault = some e)
    (params : List Param) : r.bind params = r := by
  unfold bind
  rw [h]

theorem bind_of_ok {r : ItemRequest op} {params : List Param} {b : Bindings}
    (h : r.fault = none) (hb : r.input.bindings.bind params = .ok b) :
    r.bind params = { r with input := { r.input with bindings := b } } := by
  unfold bind
  rw [h, hb]

theorem bind_of_error {r : ItemRequest op} {params : List Param} {e : ParamError}
    (h : r.fault = none) (hb : r.input.bindings.bind params = .error e) :
    r.bind params = { r with fault := some e } := by
  unfold bind
  rw [h, hb]

end ItemRequest

end Dynamo
