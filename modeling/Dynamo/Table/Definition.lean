import Dynamo.Table.Schema

/-! # Definitions of tables

The request that creates a table. It is built key by key; each attribute of a key is declared once,
with the type it was first given.

* `TableDefinition.hashKey`, `TableDefinition.rangeKey`: an attribute of the key.
* `TableDefinition.declare`: an attribute of the keys of indexes. -/

namespace Dynamo

/-- **The definition of a table.** -/
structure TableDefinition where
  tableName : String
  attributeDefinitions : List AttributeDefinition := []
  keySchema : List KeySchemaElement := []
  provisionedThroughput : ProvisionedThroughput := {}
  globalSecondaryIndexes : List SecondaryIndex := []
  localSecondaryIndexes : List SecondaryIndex := []
  streamSpecification : Option StreamSpecification := none
  deriving DecidableEq, Inhabited

namespace TableDefinition

/-- The definition of a table without a key. -/
def new (tableName : String) : TableDefinition := { tableName }

/-- Is the attribute declared? -/
def declares (d : TableDefinition) (name : String) : Bool :=
  d.attributeDefinitions.any fun a => a.attributeName = name

/-- Declares an attribute that is not declared yet. -/
def declare (name : String) (type : AttributeType) (d : TableDefinition) : TableDefinition :=
  if d.declares name then d
  else { d with attributeDefinitions := d.attributeDefinitions ++ [⟨name, type⟩] }

/-- Adds an attribute to the key, and declares it. -/
def key (name : String) (type : AttributeType) (keyType : KeyType) (d : TableDefinition) :
    TableDefinition :=
  let d := d.declare name type
  { d with keySchema := d.keySchema ++ [⟨name, keyType⟩] }

/-- Adds the attribute that items are distributed by. -/
def hashKey (name : String) (type : AttributeType) : TableDefinition → TableDefinition :=
  key name type .hash

/-- Adds the attribute that items are ordered by. -/
def rangeKey (name : String) (type : AttributeType) : TableDefinition → TableDefinition :=
  key name type .range

/-- The body of the request. -/
def fields : Fields TableDefinition :=
  (Fields.cons (.required "TableName" .string) <|
    .cons (.required "AttributeDefinitions" AttributeDefinition.shape.list) <|
    .cons (.required "KeySchema" KeySchemaElement.shape.list) <|
    .cons (.required "ProvisionedThroughput" ProvisionedThroughput.shape) <|
    .cons (.list "GlobalSecondaryIndexes" SecondaryIndex.shape) <|
    .cons (.list "LocalSecondaryIndexes" SecondaryIndex.shape) <|
    .one (.optional "StreamSpecification" StreamSpecification.shape)).iso
  (fun d => (d.tableName, d.attributeDefinitions, d.keySchema, d.provisionedThroughput,
    d.globalSecondaryIndexes, d.localSecondaryIndexes, d.streamSpecification))
  fun (tableName, attributeDefinitions, keySchema, provisionedThroughput, globalSecondaryIndexes,
      localSecondaryIndexes, streamSpecification) =>
    { tableName, attributeDefinitions, keySchema, provisionedThroughput, globalSecondaryIndexes,
      localSecondaryIndexes, streamSpecification }

/-- The JSON of the request. -/
def toJson (d : TableDefinition) : Except EncodeError Json := (Shape.record fields).write d

end TableDefinition

end Dynamo
