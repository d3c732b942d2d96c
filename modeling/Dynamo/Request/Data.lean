import Dynamo.Request.BatchGet
import Dynamo.Request.BatchWrite
import Dynamo.Request.Item

/-! # Requests about data

The operations on items and batches, as opposed to those on tables, and for each of them the types
of its requests, bodies and answers. Whatever holds for all of them is said here once. -/

namespace Dynamo

/-- An operation on the data of tables. -/
inductive DataOperation where
  | item (op : ItemOperation)
  | batchGet
  | batchWrite
  deriving DecidableEq, Repr, Inhabited

namespace DataOperation

/-- All operations. -/
def all : List DataOperation :=
  [.item .get, .item .put, .item .update, .item .delete, .item .query, .item .scan, .batchGet,
    .batchWrite]

/-- The operation of the service. -/
def operation : DataOperation → Operation
  | .item op => op.operation
  | .batchGet => .batchGetItem
  | .batchWrite => .batchWriteItem

/-- The operation on data that an operation of the service is, if it is one. -/
def ofOperation? (op : Operation) : Option DataOperation := all.find? fun d => d.operation = op

theorem ofOperation?_operation (op : DataOperation) : ofOperation? op.operation = some op := by
  cases op with
  | item op => cases op <;> rfl
  | batchGet => rfl
  | batchWrite => rfl

/-- The requests for an operation. -/
def Request : DataOperation → Type
  | .item op => ItemRequest op
  | .batchGet => BatchGetRequest
  | .batchWrite => BatchWriteRequest

/-- The bodies of the requests. -/
def Input : DataOperation → Type
  | .item op => ItemInput op
  | .batchGet => BatchGetInput
  | .batchWrite => BatchWriteInput

/-- The answers to the requests. -/
def Output : DataOperation → Type
  | .item op => op.Output
  | .batchGet => BatchGetOutput
  | .batchWrite => BatchWriteOutput

/-- The body of a request. -/
def input : (op : DataOperation) → op.Request → op.Input
  | .item _, (r : ItemRequest _) => r.input
  | .batchGet, (r : BatchGetRequest) => r.input
  | .batchWrite, (r : BatchWriteRequest) => r.input

/-- The table that a body is about, if it is about one only. -/
def tableName? : (op : DataOperation) → op.Input → Option String
  | .item _, (i : ItemInput _) => some i.tableName
  | .batchGet, _ => none
  | .batchWrite, _ => none

/-- The JSON of a body. -/
def toJson : (op : DataOperation) → op.Input → Except EncodeError Json
  | .item _, (i : ItemInput _) => i.toJson
  | .batchGet, (i : BatchGetInput) => i.toJson
  | .batchWrite, (i : BatchWriteInput) => i.toJson

/-- Looks for what is wrong with a request, before anybody sends it. -/
def check : (op : DataOperation) → op.Request → Except Error Unit
  | .item _, (r : ItemRequest _) => r.check
  | .batchGet, (r : BatchGetRequest) => r.check
  | .batchWrite, (r : BatchWriteRequest) => r.check

/-- The shape of the answers. -/
def outputShape : (op : DataOperation) → Shape op.Output
  | .item op => op.outputShape
  | .batchGet => BatchGetOutput.shape
  | .batchWrite => BatchWriteOutput.shape

/-- The answer in which every member is missing. -/
def emptyOutput : (op : DataOperation) → op.Output
  | .item op => op.emptyOutput
  | .batchGet => ({} : BatchGetOutput)
  | .batchWrite => ({} : BatchWriteOutput)

end DataOperation

end Dynamo
