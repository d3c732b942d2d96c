import Dynamo.Table.Schema

/-! # Streams and their shards

A stream of changes is divided into shards, which hold records in the order of their sequence
numbers. -/

namespace Dynamo

open Decimal

/-- What identifies a stream. -/
structure Stream where
  streamArn : String := ""
  streamLabel : String := ""
  tableName : String := ""
  deriving DecidableEq, Inhabited

/-- The sequence numbers of a shard; an open shard has no last one. -/
structure SequenceNumberRange where
  startingSequenceNumber : String := ""
  endingSequenceNumber : Option String := none
  deriving DecidableEq, Inhabited

/-- A part of a stream. -/
structure Shard where
  shardId : String := ""
  parentShardId : Option String := none
  sequenceNumberRange : SequenceNumberRange := {}
  deriving DecidableEq, Inhabited

/-- A stream as the service describes it. -/
structure StreamDescription where
  stream : Stream := {}
  keySchema : List KeySchemaElement := []
  shards : List Shard := []
  streamStatus : String := ""
  streamViewType : Option StreamViewType := none
  /-- Seconds since the beginning of 1970. -/
  creationRequestDateTime : Double := .zero
  /-- Where the next page of shards starts, if there is more. -/
  lastEvaluatedShardId : Option String := none
  deriving DecidableEq, Inhabited

namespace Stream

/-- The members of a stream. -/
def fields : Fields Stream :=
  (Fields.cons (.defaulted "StreamArn" .string "") <|
    .cons (.defaulted "StreamLabel" .string "") <|
    .one (.defaulted "TableName" .string "")).iso
  (fun s => (s.streamArn, s.streamLabel, s.tableName))
  fun (streamArn, streamLabel, tableName) => { streamArn, streamLabel, tableName }

/-- The shape of streams. -/
def shape : Shape Stream := .record fields

end Stream

/-- The shape of ranges of sequence numbers. -/
def SequenceNumberRange.shape : Shape SequenceNumberRange :=
  .record <|
    (Fields.cons (.defaulted "StartingSequenceNumber" .string "") <|
      .one (.nullable "EndingSequenceNumber" .string)).iso
    (fun r => (r.startingSequenceNumber, r.endingSequenceNumber))
    fun (startingSequenceNumber, endingSequenceNumber) =>
      { startingSequenceNumber, endingSequenceNumber }

/-- The shape of shards. -/
def Shard.shape : Shape Shard :=
  .record <|
    (Fields.cons (.defaulted "ShardId" .string "") <|
      .cons (.nullable "ParentShardId" .string) <|
      .one (.defaulted "SequenceNumberRange" SequenceNumberRange.shape {})).iso
    (fun s => (s.shardId, s.parentShardId, s.sequenceNumberRange))
    fun (shardId, parentShardId, sequenceNumberRange) =>
      { shardId, parentShardId, sequenceNumberRange }

namespace StreamDescription

/-- The members of a description besides those of the stream. -/
def ownFields : Fields (List KeySchemaElement × List Shard × String × Option StreamViewType ×
    Double × Option String) :=
  .cons (.defaulted "KeySchema" KeySchemaElement.shape.list []) <|
    .cons (.defaulted "Shards" Shard.shape.list []) <|
    .cons (.defaulted "StreamStatus" .string "") <|
    .cons (.nullable "StreamViewType" StreamViewType.shape) <|
    .cons (.defaulted "CreationRequestDateTime" .double .zero) <|
    .one (.nullable "LastEvaluatedShardId" .string)

/-- The shape of descriptions: the members of the stream stand among the others. -/
def shape : Shape StreamDescription :=
  (Shape.spliced Stream.fields ownFields).iso
    (fun d => (d.stream, d.keySchema, d.shards, d.streamStatus, d.streamViewType,
      d.creationRequestDateTime, d.lastEvaluatedShardId))
    fun (stream, keySchema, shards, streamStatus, streamViewType, creationRequestDateTime,
        lastEvaluatedShardId) =>
      { stream, keySchema, shards, streamStatus, streamViewType, creationRequestDateTime,
        lastEvaluatedShardId }

end StreamDescription

end Dynamo
