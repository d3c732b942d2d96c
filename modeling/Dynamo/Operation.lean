/-! # Operations

What can be asked of the service, and the names that requests call it by. -/

namespace Dynamo

/-- **An operation.** -/
inductive Operation where
  | createTable
  | deleteTable
  | describeTable
  | listTables
  | getItem
  | putItem
  | updateItem
  | deleteItem
  | query
  | scan
  | batchGetItem
  | batchWriteItem
  deriving DecidableEq, Repr, Inhabited

namespace Operation

/-- All operations. -/
def all : List Operation :=
  [.createTable, .deleteTable, .describeTable, .listTables, .getItem, .putItem, .updateItem,
    .deleteItem, .query, .scan, .batchGetItem, .batchWriteItem]

/-- The name of an operation. -/
def name : Operation → String
  | .createTable => "CreateTable"
  | .deleteTable => "DeleteTable"
  | .describeTable => "DescribeTable"
  | .listTables => "ListTables"
  | .getItem => "GetItem"
  | .putItem => "PutItem"
  | .updateItem => "UpdateItem"
  | .deleteItem => "DeleteItem"
  | .query => "Query"
  | .scan => "Scan"
  | .batchGetItem => "BatchGetItem"
  | .batchWriteItem => "BatchWriteItem"

/-- What stands before the name in the target of a request: the version of the interface. -/
def targetPrefix : String := "DynamoDB_20120810."

/-- The target of requests for an operation. -/
def target (op : Operation) : String := targetPrefix ++ op.name

/-- The operation with a name or a target. -/
def ofName? (s : String) : Option Operation := all.find? fun op => op.name = s || op.target = s

theorem ofName?_name (op : Operation) : ofName? op.name = some op := by cases op <;> decide

end Operation

end Dynamo
