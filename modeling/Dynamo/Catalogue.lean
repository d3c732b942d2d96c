import Dynamo.Output
import Dynamo.Request.Options
import Dynamo.Stream.Requests

/-! # All shapes of messages

The types that messages are made of, by their names, each with its shape: choices first, then
records from the smallest to whole responses. -/

namespace Dynamo

/-- A type of messages, or of parts of them. -/
structure MessageType where
  name : String
  Message : Type
  shape : Shape Message

namespace MessageType

/-- The choices between names. -/
def choices : List MessageType :=
  [⟨"KeyType", KeyType, KeyType.shape⟩,
    ⟨"AttributeType", AttributeType, AttributeType.shape⟩,
    ⟨"ProjectionType", ProjectionType, ProjectionType.shape⟩,
    ⟨"StreamViewType", StreamViewType, StreamViewType.shape⟩,
    ⟨"CapacityDetail", CapacityDetail, CapacityDetail.shape⟩,
    ⟨"ReturnValues", ReturnValues, ReturnValues.shape⟩,
    ⟨"Select", Select, Select.shape⟩,
    ⟨"IteratorType", IteratorType, IteratorType.shape⟩]

/-- The parts of definitions and descriptions of tables. -/
def tables : List MessageType :=
  [⟨"KeySchemaElement", KeySchemaElement, KeySchemaElement.shape⟩,
    ⟨"AttributeDefinition", AttributeDefinition, AttributeDefinition.shape⟩,
    ⟨"ProvisionedThroughput", ProvisionedThroughput, ProvisionedThroughput.shape⟩,
    ⟨"Projection", Projection, Projection.shape⟩,
    ⟨"SecondaryIndex", SecondaryIndex, SecondaryIndex.shape⟩,
    ⟨"SecondaryIndexDescription", SecondaryIndexDescription, SecondaryIndexDescription.shape⟩,
    ⟨"StreamSpecification", StreamSpecification, StreamSpecification.shape⟩,
    ⟨"TableDescription", TableDescription, TableDescription.shape⟩]

/-- The parts of requests and responses about data. -/
def data : List MessageType :=
  [⟨"Capacity", Capacity, Capacity.shape⟩,
    ⟨"ConsumedCapacity", ConsumedCapacity, ConsumedCapacity.shape⟩,
    ⟨"KeysAndAttributes", KeysAndAttributes, KeysAndAttributes.shape⟩,
    ⟨"WriteRequest", WriteRequest, WriteRequest.shape⟩]

/-- Whole responses. -/
def outputs : List MessageType :=
  [⟨"GetOutput", GetOutput, GetOutput.shape⟩,
    ⟨"WriteOutput", WriteOutput, WriteOutput.shape⟩,
    ⟨"PageOutput", PageOutput, PageOutput.shape⟩,
    ⟨"BatchGetOutput", BatchGetOutput, BatchGetOutput.shape⟩,
    ⟨"BatchWriteOutput", BatchWriteOutput, BatchWriteOutput.shape⟩,
    ⟨"TableDescriptionOutput", TableDescriptionOutput, TableDescriptionOutput.shape⟩,
    ⟨"DescribeTableOutput", DescribeTableOutput, DescribeTableOutput.shape⟩,
    ⟨"ListTablesOutput", ListTablesOutput, ListTablesOutput.shape⟩]

/-- What streams are made of. -/
def streams : List MessageType :=
  [⟨"Stream", Stream, Stream.shape⟩,
    ⟨"SequenceNumberRange", SequenceNumberRange, SequenceNumberRange.shape⟩,
    ⟨"Shard", Shard, Shard.shape⟩,
    ⟨"StreamDescription", StreamDescription, StreamDescription.shape⟩,
    ⟨"Change", Change, Change.shape⟩,
    ⟨"ChangeRecord", ChangeRecord, ChangeRecord.shape⟩]

/-- **All types of messages.** -/
def all : List MessageType := choices ++ tables ++ data ++ outputs ++ streams

/-- The type with a name. -/
def ofName? (name : String) : Option MessageType := all.find? fun t => t.name = name

/-- The JSON of the message that a text holds. -/
def normalize (t : MessageType) (text : Bytes) : Except ReadError (Except EncodeError Json) :=
  (t.shape.ofBytes text).map t.shape.write

end MessageType

end Dynamo
