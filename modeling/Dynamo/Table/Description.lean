import Dynamo.Table.Schema

/-! # What the service says about a table

Every member may be missing: what a service leaves out gets the value that stands for nothing. -/

namespace Dynamo

open Decimal

/-- An index as the service describes it. -/
structure SecondaryIndexDescription where
  indexName : String := ""
  keySchema : List KeySchemaElement := []
  projection : Option Projection := none
  indexStatus : Option String := none
  backfilling : Option Bool := none
  indexSizeBytes : Option UInt64 := none
  itemCount : Option UInt64 := none
  deriving DecidableEq, Inhabited

/-- A table as the service describes it. -/
structure TableDescription where
  tableName : String := ""
  tableStatus : String := ""
  tableSizeBytes : UInt64 := 0
  itemCount : UInt64 := 0
  /-- Seconds since the beginning of 1970. -/
  creationDateTime : Double := .zero
  tableArn : Option String := none
  keySchema : List KeySchemaElement := []
  attributeDefinitions : List AttributeDefinition := []
  globalSecondaryIndexes : List SecondaryIndexDescription := []
  localSecondaryIndexes : List SecondaryIndexDescription := []
  streamSpecification : Option StreamSpecification := none
  latestStreamArn : Option String := none
  deriving DecidableEq, Inhabited

/-- The shape of index descriptions. -/
def SecondaryIndexDescription.shape : Shape SecondaryIndexDescription :=
  .record <|
    (Fields.cons (.defaulted "IndexName" .string "") <|
      .cons (.defaulted "KeySchema" KeySchemaElement.shape.list []) <|
      .cons (.nullable "Projection" Projection.shape) <|
      .cons (.nullable "IndexStatus" .string) <|
      .cons (.nullable "Backfilling" .bool) <|
      .cons (.nullable "IndexSizeBytes" .nat64) <|
      .one (.nullable "ItemCount" .nat64)).iso
    (fun d => (d.indexName, d.keySchema, d.projection, d.indexStatus, d.backfilling,
      d.indexSizeBytes, d.itemCount))
    fun (indexName, keySchema, projection, indexStatus, backfilling, indexSizeBytes, itemCount) =>
      { indexName, keySchema, projection, indexStatus, backfilling, indexSizeBytes, itemCount }

/-- The shape of table descriptions. -/
def TableDescription.shape : Shape TableDescription :=
  .record <|
    (Fields.cons (.defaulted "TableName" .string "") <|
      .cons (.defaulted "TableStatus" .string "") <|
      .cons (.defaulted "TableSizeBytes" .nat64 0) <|
      .cons (.defaulted "ItemCount" .nat64 0) <|
      .cons (.defaulted "CreationDateTime" .double .zero) <|
      .cons (.nullable "TableArn" .string) <|
      .cons (.defaulted "KeySchema" KeySchemaElement.shape.list []) <|
      .cons (.defaulted "AttributeDefinitions" AttributeDefinition.shape.list []) <|
      .cons (.defaulted "GlobalSecondaryIndexes" SecondaryIndexDescription.shape.list []) <|
      .cons (.defaulted "LocalSecondaryIndexes" SecondaryIndexDescription.shape.list []) <|
      .cons (.nullable "StreamSpecification" StreamSpecification.shape) <|
      .one (.nullable "LatestStreamArn" .string)).iso
    (fun t => (t.tableName, t.tableStatus, t.tableSizeBytes, t.itemCount, t.creationDateTime,
      t.tableArn, t.keySchema, t.attributeDefinitions, t.globalSecondaryIndexes,
      t.localSecondaryIndexes, t.streamSpecification, t.latestStreamArn))
    fun (tableName, tableStatus, tableSizeBytes, itemCount, creationDateTime, tableArn, keySchema,
        attributeDefinitions, globalSecondaryIndexes, localSecondaryIndexes, streamSpecification,
        latestStreamArn) =>
      { tableName, tableStatus, tableSizeBytes, itemCount, creationDateTime, tableArn, keySchema,
        attributeDefinitions, globalSecondaryIndexes, localSecondaryIndexes, streamSpecification,
        latestStreamArn }

end Dynamo
