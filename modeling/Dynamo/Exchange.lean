import Dynamo.Operation
import Dynamo.Request.Data
import Dynamo.Request.Tables
import Dynamo.Table.Definition

/-! # Exchanges with the service

What a request leads to: nothing is sent and there is a result at once, or one body is sent and the
response decides. Who sends the body, and how, is left open.

* `DataOperation.execute`: a request about data, after it was looked at.
* `DataOperation.exchange`: the same without looking. -/

namespace Dynamo

/-- **An exchange that ends with a result.** -/
inductive Exchange (α : Type) where
  /-- Nothing is sent. -/
  | done (result : Except Error α)
  /-- A body is sent to a target, and its response goes to `next`. -/
  | ask (target : String) (body : Json) (next : Except Error Bytes → Except Error α)

namespace Exchange

variable {α β : Type}

/-- The exchange with another result. -/
def map (f : α → β) : Exchange α → Exchange β
  | .done result => .done (result.map f)
  | .ask target body next => .ask target body fun response => (next response).map f

/-- The result if `send` carries out what is asked. -/
def run {m : Type → Type} [Monad m] (send : String → Json → m (Except Error Bytes)) :
    Exchange α → m (Except Error α)
  | .done result => pure result
  | .ask target body next => return next (← send target body)

/-- What is asked, if anything is. -/
def sent? : Exchange α → Option (String × Json)
  | .done _ => none
  | .ask target body _ => some (target, body)

/-- Sends a body, and makes the result of the response. -/
def call (target : String) (body : Except EncodeError Json) (read : Bytes → Except Error α) :
    Exchange α :=
  match body with
  | .ok json => .ask target json fun response => response.bind read
  | .error e => .done (.error (.marshal e))

/-- The value of a shape that a response holds. -/
def reading (shape : Shape α) (response : Bytes) : Except Error α :=
  (shape.ofBytes response).mapError .unmarshal

end Exchange

/-! ### Items and batches -/

/-- Was something asked for that only the response tells? -/
def ItemInput.wantsResponse {op : ItemOperation} (i : ItemInput op) : Bool :=
  i.returnValues.any ReturnValues.returnsAttributes ||
    i.returnConsumedCapacity.any fun detail => detail ≠ .none

/-- The answer that a response holds. The response to a write of one item is not looked at unless it
tells something that was asked for. -/
def ItemOperation.readOutput (op : ItemOperation) (i : ItemInput op) (response : Bytes) :
    Except Error op.Output :=
  if op.writes && !i.wantsResponse then .ok op.emptyOutput
  else Exchange.reading op.outputShape response

namespace DataOperation

/-- The answer that a response holds. -/
def readOutput : (op : DataOperation) → op.Input → Bytes → Except Error op.Output
  | .item op, i, response => op.readOutput i response
  | .batchGet, _, response => Exchange.reading BatchGetOutput.shape response
  | .batchWrite, _, response => Exchange.reading BatchWriteOutput.shape response

/-- The exchange for a request. -/
def exchange (op : DataOperation) (r : op.Request) : Exchange op.Output :=
  .call op.operation.name (op.toJson (op.input r)) (op.readOutput (op.input r))

/-- **Carries out a request**, if nothing is wrong with it. -/
def execute (op : DataOperation) (r : op.Request) : Exchange op.Output :=
  match op.check r with
  | .ok () => op.exchange r
  | .error e => .done (.error e)

end DataOperation

/-! ### Tables -/

namespace Exchange

/-- The creation of a table. -/
def createTable (d : TableDefinition) : Exchange TableDescription :=
  (call Operation.createTable.name d.toJson (reading TableDescriptionOutput.shape)).map
    (·.tableDescription)

/-- The deletion of a table. -/
def deleteTable (tableName : String) : Exchange TableDescription :=
  (call Operation.deleteTable.name (.ok (tableNameJson tableName))
    (reading TableDescriptionOutput.shape)).map (·.tableDescription)

/-- The description of a table. -/
def describeTable (tableName : String) : Exchange TableDescription :=
  (call Operation.describeTable.name (.ok (tableNameJson tableName))
    (reading DescribeTableOutput.shape)).map (·.table)

/-- A page of table names. -/
def listTables (r : ListTablesRequest) : Exchange ListTablesOutput :=
  call Operation.listTables.name (.ok r.toJson) (reading ListTablesOutput.shape)

end Exchange

end Dynamo
