import Dynamo.Batch
import Dynamo.Error
import Dynamo.Output
import Dynamo.Request.Options
import Dynamo.Request.PerTable

/-! # Batches of writes

A batch puts items into several tables and deletes others from them, for each table in the order in
which that was asked.

* `BatchWriteRequest.set`: the batch with one more setting.
* `BatchWriteRequest.retry?`: a batch for the writes that were left out. -/

namespace Dynamo

/-- What can be set on a batch of writes. -/
inductive BatchWriteSetting where
  | put (table : String) (items : List Document)
  | delete (table : String) (keys : List Document)
  | returnConsumedCapacity (detail : CapacityDetail)
  deriving DecidableEq

/-- **A batch of writes.** -/
structure BatchWriteRequest where
  batch : PerTable (List WriteRequest) := []
  returnConsumedCapacity : Option CapacityDetail := none
  deriving DecidableEq, Inhabited

/-- The body of a batch of writes. -/
structure BatchWriteInput where
  requestItems : Dict (List WriteRequest)
  returnConsumedCapacity : Option CapacityDetail
  deriving DecidableEq

/-- The JSON of the body. -/
def BatchWriteInput.toJson (i : BatchWriteInput) : Except EncodeError Json := do
  let items ← WriteRequest.shape.list.dict.write i.requestItems
  return .obj ([("RequestItems", items)] ++ capacityMember i.returnConsumedCapacity)

namespace BatchWriteRequest

/-- Adds writes to a table. -/
def add (table : String) (writes : List WriteRequest) (r : BatchWriteRequest) : BatchWriteRequest :=
  { r with batch := r.batch.modify [] table (· ++ writes) }

/-- **The batch with one more setting.** -/
def set (r : BatchWriteRequest) : BatchWriteSetting → BatchWriteRequest
  | .put table items => r.add table (items.map .put)
  | .delete table keys => r.add table (keys.map .delete)
  | .returnConsumedCapacity detail => { r with returnConsumedCapacity := some detail }

/-- The tables, in the order in which they were first mentioned. -/
def tables (r : BatchWriteRequest) : List String := r.batch.tables

/-- How many writes there are. -/
def length (r : BatchWriteRequest) : Nat := r.batch.foldr (fun e n => e.2.length + n) 0

/-- Is there nothing to write? -/
def isEmpty (r : BatchWriteRequest) : Bool := r.length = 0

/-- The body. -/
def input (r : BatchWriteRequest) : BatchWriteInput := ⟨.ofList r.batch, r.returnConsumedCapacity⟩

/-- The items and keys of all tables. -/
def documents (r : BatchWriteRequest) : List Document :=
  r.batch.flatMap fun e => e.2.map WriteRequest.document

/-- Looks for what is wrong with the batch, before anybody sends it. -/
def check (r : BatchWriteRequest) : Except Error Unit := Error.checkDocuments r.documents

/-- **A batch for the writes that an answer left out**, if it left out any. -/
def retry? (r : BatchWriteRequest) (o : BatchWriteOutput) : Option BatchWriteRequest :=
  let batch := (PerTable.arrange r.tables o.unprocessedItems).filter fun e => !e.2.isEmpty
  if batch.isEmpty then none else some { r with batch }

end BatchWriteRequest

namespace BatchWriteOutput

/-- The writes to a table that were left out. -/
def unprocessed (o : BatchWriteOutput) (table : String) : List WriteRequest :=
  (o.unprocessedItems.get? table).getD []

/-- The items of a table that were not put. -/
def puts (o : BatchWriteOutput) (table : String) : List Document :=
  (o.unprocessed table).filterMap WriteRequest.item?

/-- The keys of items of a table that were not deleted. -/
def deleteKeys (o : BatchWriteOutput) (table : String) : List Document :=
  (o.unprocessed table).filterMap WriteRequest.key?

/-- The capacity that the batch consumed of a table. -/
def capacity? (o : BatchWriteOutput) (table : String) : Option ConsumedCapacity :=
  ConsumedCapacity.forTable? o.consumedCapacity table

end BatchWriteOutput

end Dynamo
