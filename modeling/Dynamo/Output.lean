import Dynamo.Batch
import Dynamo.Capacity
import Dynamo.Table.Description

/-! # Responses

The bodies that the service answers operations with. Every member may be missing, so that also an
empty object is a response. -/

namespace Dynamo

/-- The response to a read of one item. -/
structure GetOutput where
  /-- Missing if no item has the key. -/
  item : Option Document := none
  consumedCapacity : Option ConsumedCapacity := none
  deriving DecidableEq, Inhabited

/-- The response to a write of one item. -/
structure WriteOutput where
  /-- The attributes that were asked for. -/
  attributes : Option Document := none
  consumedCapacity : Option ConsumedCapacity := none
  deriving DecidableEq, Inhabited

/-- A page of items. -/
structure PageOutput where
  items : List Document := []
  /-- How many items there are after filtering. -/
  count : UInt64 := 0
  /-- How many items there were before filtering. -/
  scannedCount : UInt64 := 0
  /-- Where the next page starts, if there is more. -/
  lastEvaluatedKey : Option Document := none
  consumedCapacity : Option ConsumedCapacity := none
  deriving DecidableEq, Inhabited

/-- The response to a batch of reads. -/
structure BatchGetOutput where
  /-- The items of each table. -/
  responses : Dict (List Document) := .empty
  /-- What is left to read. -/
  unprocessedKeys : Dict KeysAndAttributes := .empty
  consumedCapacity : List ConsumedCapacity := []
  deriving DecidableEq, Inhabited

/-- The response to a batch of writes. -/
structure BatchWriteOutput where
  /-- What is left to write. -/
  unprocessedItems : Dict (List WriteRequest) := .empty
  consumedCapacity : List ConsumedCapacity := []
  deriving DecidableEq, Inhabited

/-- The response to the creation or deletion of a table. -/
structure TableDescriptionOutput where
  tableDescription : TableDescription := {}
  deriving DecidableEq, Inhabited

/-- The response to a question for a table. -/
structure DescribeTableOutput where
  table : TableDescription := {}
  deriving DecidableEq, Inhabited

/-- A page of table names. -/
structure ListTablesOutput where
  tableNames : List String := []
  /-- Where the next page starts, if there is more. -/
  lastEvaluatedTableName : Option String := none
  deriving DecidableEq, Inhabited

/-! ### Shapes -/

/-- The shape of responses to reads of one item. -/
def GetOutput.shape : Shape GetOutput :=
  .record <|
    (Fields.cons (.optional "Item" .document) <|
      .one (.optional "ConsumedCapacity" ConsumedCapacity.shape)).iso
    (fun o => (o.item, o.consumedCapacity)) fun (item, consumedCapacity) =>
      { item, consumedCapacity }

/-- The shape of responses to writes of one item. -/
def WriteOutput.shape : Shape WriteOutput :=
  .record <|
    (Fields.cons (.optional "Attributes" .document) <|
      .one (.optional "ConsumedCapacity" ConsumedCapacity.shape)).iso
    (fun o => (o.attributes, o.consumedCapacity)) fun (attributes, consumedCapacity) =>
      { attributes, consumedCapacity }

/-- The shape of pages of items. -/
def PageOutput.shape : Shape PageOutput :=
  .record <|
    (Fields.cons (.defaulted "Items" Shape.document.list []) <|
      .cons (.defaulted "Count" .nat64 0) <|
      .cons (.defaulted "ScannedCount" .nat64 0) <|
      .cons (.optional "LastEvaluatedKey" .document) <|
      .one (.optional "ConsumedCapacity" ConsumedCapacity.shape)).iso
    (fun o => (o.items, o.count, o.scannedCount, o.lastEvaluatedKey, o.consumedCapacity))
    fun (items, count, scannedCount, lastEvaluatedKey, consumedCapacity) =>
      { items, count, scannedCount, lastEvaluatedKey, consumedCapacity }

/-- The shape of responses to batches of reads. -/
def BatchGetOutput.shape : Shape BatchGetOutput :=
  .record <|
    (Fields.cons (.defaulted "Responses" Shape.document.list.dict .empty) <|
      .cons (.dict "UnprocessedKeys" KeysAndAttributes.shape) <|
      .one (.list "ConsumedCapacity" ConsumedCapacity.shape)).iso
    (fun o => (o.responses, o.unprocessedKeys, o.consumedCapacity))
    fun (responses, unprocessedKeys, consumedCapacity) =>
      { responses, unprocessedKeys, consumedCapacity }

/-- The shape of responses to batches of writes. -/
def BatchWriteOutput.shape : Shape BatchWriteOutput :=
  .record <|
    (Fields.cons (.dict "UnprocessedItems" WriteRequest.shape.list) <|
      .one (.list "ConsumedCapacity" ConsumedCapacity.shape)).iso
    (fun o => (o.unprocessedItems, o.consumedCapacity))
    fun (unprocessedItems, consumedCapacity) => { unprocessedItems, consumedCapacity }

/-- The shape of responses to the creation or deletion of a table. -/
def TableDescriptionOutput.shape : Shape TableDescriptionOutput :=
  .record <| (Fields.one (.defaulted "TableDescription" TableDescription.shape {})).iso
    (·.tableDescription) (⟨·⟩)

/-- The shape of responses to a question for a table. -/
def DescribeTableOutput.shape : Shape DescribeTableOutput :=
  .record <| (Fields.one (.defaulted "Table" TableDescription.shape {})).iso (·.table) (⟨·⟩)

/-- The shape of pages of table names. -/
def ListTablesOutput.shape : Shape ListTablesOutput :=
  .record <|
    (Fields.cons (.defaulted "TableNames" Shape.string.list []) <|
      .one (.optional "LastEvaluatedTableName" .string)).iso
    (fun o => (o.tableNames, o.lastEvaluatedTableName))
    fun (tableNames, lastEvaluatedTableName) => { tableNames, lastEvaluatedTableName }

end Dynamo
