import Dynamo.Batch
import Dynamo.Error
import Dynamo.Output
import Dynamo.Request.Options
import Dynamo.Request.PerTable

/-! # Batches of reads

A batch reads items of several tables by their keys. Parameters bind aliases only, each for the
table that its expression belongs to; anything else is a fault, and the first fault stays with the
batch.

* `BatchGetRequest.set`: the batch with one more setting.
* `BatchGetRequest.retry?`: a batch for the keys that were left out. -/

namespace Dynamo

/-- What can be set on a batch of reads. -/
inductive BatchGetSetting where
  | get (table : String) (keys : List Document)
  | projection (table text : String) (names : List Param)
  | consistentRead (table : String) (consistent : Bool)
  | returnConsumedCapacity (detail : CapacityDetail)
  deriving DecidableEq

/-- **A batch of reads.** -/
structure BatchGetRequest where
  batch : PerTable KeysAndAttributes := []
  returnConsumedCapacity : Option CapacityDetail := none
  /-- The first fault in the parameters. -/
  fault : Option ParamError := none
  deriving DecidableEq, Inhabited

/-- The body of a batch of reads. -/
structure BatchGetInput where
  requestItems : Dict KeysAndAttributes
  returnConsumedCapacity : Option CapacityDetail
  deriving DecidableEq

/-- The JSON of the body. -/
def BatchGetInput.toJson (i : BatchGetInput) : Except EncodeError Json := do
  let items ← KeysAndAttributes.shape.dict.write i.requestItems
  return .obj ([("RequestItems", items)] ++ capacityMember i.returnConsumedCapacity)

namespace BatchGetRequest

/-- The aliases that parameters bind. -/
def aliases (names : List Param) : Except ParamError (Dict String) := do
  let bound ← Bindings.empty.bind names
  match bound.values with
  | [] => return bound.names
  | e :: _ => .error (.valueNotAccepted e.1)

/-- **The batch with one more setting.** -/
def set (r : BatchGetRequest) : BatchGetSetting → BatchGetRequest
  | .get table keys =>
    { r with batch := r.batch.modify {} table fun k => { k with keys := k.keys ++ keys } }
  | .projection table text names =>
    match aliases names with
    | .ok bound =>
      { r with
        batch := r.batch.modify {} table fun k =>
          { k with
            projectionExpression := some text
            expressionAttributeNames := k.expressionAttributeNames.insertAll bound.entries } }
    | .error e =>
      { r with
        batch := r.batch.modify {} table fun k => { k with projectionExpression := some text }
        fault := r.fault.or (some e) }
  | .consistentRead table consistent =>
    { r with batch := r.batch.modify {} table fun k => { k with consistentRead := consistent } }
  | .returnConsumedCapacity detail => { r with returnConsumedCapacity := some detail }

/-- The tables, in the order in which they were first mentioned. -/
def tables (r : BatchGetRequest) : List String := r.batch.tables

/-- Is there no key to read? -/
def isEmpty (r : BatchGetRequest) : Bool := r.batch.all fun e => e.2.keys.isEmpty

/-- The body. -/
def input (r : BatchGetRequest) : BatchGetInput := ⟨.ofList r.batch, r.returnConsumedCapacity⟩

/-- The keys of all tables. -/
def documents (r : BatchGetRequest) : List Document := r.batch.flatMap fun e => e.2.keys

/-- Looks for what is wrong with the batch, before anybody sends it. -/
def check (r : BatchGetRequest) : Except Error Unit := do
  Error.checkParams r.fault
  Error.checkDocuments r.documents

/-- **A batch for the keys that an answer left out**, if it left out any. -/
def retry? (r : BatchGetRequest) (o : BatchGetOutput) : Option BatchGetRequest :=
  let batch := (PerTable.arrange r.tables o.unprocessedKeys).filter fun e => !e.2.keys.isEmpty
  if batch.isEmpty then none else some { r with batch, fault := none }

end BatchGetRequest

namespace BatchGetOutput

/-- The items of a table. -/
def items (o : BatchGetOutput) (table : String) : List Document :=
  (o.responses.get? table).getD []

/-- The capacity that the batch consumed of a table. -/
def capacity? (o : BatchGetOutput) (table : String) : Option ConsumedCapacity :=
  ConsumedCapacity.forTable? o.consumedCapacity table

end BatchGetOutput

end Dynamo
