import Dynamo.Shape

/-! # Keys, indexes and throughput of tables -/

namespace Dynamo

/-- The part that an attribute plays in a key. -/
inductive KeyType where
  | hash
  | range
  deriving DecidableEq, Repr, Inhabited

/-- The types that an attribute of a key may have. -/
inductive AttributeType where
  | string
  | number
  | binary
  deriving DecidableEq, Repr, Inhabited

/-- Which attributes are copied into an index. -/
inductive ProjectionType where
  | keysOnly
  | include
  | all
  deriving DecidableEq, Repr, Inhabited

/-- What a stream records about a change. -/
inductive StreamViewType where
  | keysOnly
  | newImage
  | oldImage
  | newAndOldImages
  deriving DecidableEq, Repr, Inhabited

/-- One attribute of a key. -/
structure KeySchemaElement where
  attributeName : String
  keyType : KeyType
  deriving DecidableEq, Repr, Inhabited

/-- The type of an attribute that occurs in a key. -/
structure AttributeDefinition where
  attributeName : String
  attributeType : AttributeType
  deriving DecidableEq, Repr, Inhabited

/-- The reads and writes per second that are set aside. -/
structure ProvisionedThroughput where
  readCapacityUnits : UInt64 := 1
  writeCapacityUnits : UInt64 := 1
  deriving DecidableEq, Repr, Inhabited

/-- What an index holds besides the keys. -/
structure Projection where
  projectionType : ProjectionType := .all
  nonKeyAttributes : List String := []
  deriving DecidableEq, Repr, Inhabited

/-- An index in the definition of a table. -/
structure SecondaryIndex where
  indexName : String
  keySchema : List KeySchemaElement
  projection : Projection
  provisionedThroughput : Option ProvisionedThroughput
  deriving DecidableEq, Repr, Inhabited

/-- Whether changes are recorded, and what of them. -/
structure StreamSpecification where
  streamEnabled : Bool
  streamViewType : Option StreamViewType
  deriving DecidableEq, Repr, Inhabited

/-! ### Shapes -/

/-- The name of a key type in messages. -/
def KeyType.name : KeyType → String
  | .hash => "HASH"
  | .range => "RANGE"

/-- The name of an attribute type in messages. -/
def AttributeType.name : AttributeType → String
  | .string => "S"
  | .number => "N"
  | .binary => "B"

/-- The name of a projection type in messages. -/
def ProjectionType.name : ProjectionType → String
  | .keysOnly => "KEYS_ONLY"
  | .include => "INCLUDE"
  | .all => "ALL"

/-- The name of a view type in messages. -/
def StreamViewType.name : StreamViewType → String
  | .keysOnly => "KEYS_ONLY"
  | .newImage => "NEW_IMAGE"
  | .oldImage => "OLD_IMAGE"
  | .newAndOldImages => "NEW_AND_OLD_IMAGES"

/-- The shape of key types. -/
def KeyType.shape : Shape KeyType := .choice [.hash, .range] KeyType.name

/-- The shape of attribute types. -/
def AttributeType.shape : Shape AttributeType :=
  .choice [.string, .number, .binary] AttributeType.name

/-- The shape of projection types. -/
def ProjectionType.shape : Shape ProjectionType :=
  .choice [.keysOnly, .include, .all] ProjectionType.name

/-- The shape of view types. -/
def StreamViewType.shape : Shape StreamViewType :=
  .choice [.keysOnly, .newImage, .oldImage, .newAndOldImages] StreamViewType.name

/-- The shape of key attributes. -/
def KeySchemaElement.shape : Shape KeySchemaElement :=
  .record <|
    (Fields.cons (.required "AttributeName" .string) <|
      .one (.required "KeyType" KeyType.shape)).iso
    (fun e => (e.attributeName, e.keyType)) fun (attributeName, keyType) =>
      { attributeName, keyType }

/-- The shape of attribute definitions. -/
def AttributeDefinition.shape : Shape AttributeDefinition :=
  .record <|
    (Fields.cons (.required "AttributeName" .string) <|
      .one (.required "AttributeType" AttributeType.shape)).iso
    (fun d => (d.attributeName, d.attributeType)) fun (attributeName, attributeType) =>
      { attributeName, attributeType }

/-- The shape of throughputs. -/
def ProvisionedThroughput.shape : Shape ProvisionedThroughput :=
  .record <|
    (Fields.cons (.required "ReadCapacityUnits" .nat64) <|
      .one (.required "WriteCapacityUnits" .nat64)).iso
    (fun t => (t.readCapacityUnits, t.writeCapacityUnits))
    fun (readCapacityUnits, writeCapacityUnits) => { readCapacityUnits, writeCapacityUnits }

/-- The shape of projections. -/
def Projection.shape : Shape Projection :=
  .record <|
    (Fields.cons (.required "ProjectionType" ProjectionType.shape) <|
      .one (.list "NonKeyAttributes" .string)).iso
    (fun p => (p.projectionType, p.nonKeyAttributes))
    fun (projectionType, nonKeyAttributes) => { projectionType, nonKeyAttributes }

/-- The shape of indexes. -/
def SecondaryIndex.shape : Shape SecondaryIndex :=
  .record <|
    (Fields.cons (.required "IndexName" .string) <|
      .cons (.required "KeySchema" KeySchemaElement.shape.list) <|
      .cons (.required "Projection" Projection.shape) <|
      .one { Member.optional "ProvisionedThroughput" ProvisionedThroughput.shape with
        absent := .inObject none }).iso
    (fun x => (x.indexName, x.keySchema, x.projection, x.provisionedThroughput))
    fun (indexName, keySchema, projection, provisionedThroughput) =>
      { indexName, keySchema, projection, provisionedThroughput }

/-- The shape of stream specifications. -/
def StreamSpecification.shape : Shape StreamSpecification :=
  .record <|
    (Fields.cons (.required "StreamEnabled" .bool) <|
      .one { Member.optional "StreamViewType" StreamViewType.shape with
        absent := .inObject none }).iso
    (fun s => (s.streamEnabled, s.streamViewType)) fun (streamEnabled, streamViewType) =>
      { streamEnabled, streamViewType }

end Dynamo
