import Dynamo.Exchange
import Dynamo.Stream.Description
import Dynamo.Stream.Record

/-! # Requests about streams

A stream is read in three steps: its description tells the shards, an iterator stands at a place of
a shard, and records are read from the iterator, which gives the next one. -/

namespace Dynamo

/-- Where in a shard an iterator stands. -/
inductive IteratorType where
  | atSequenceNumber
  | afterSequenceNumber
  /-- At the oldest record. -/
  | trimHorizon
  /-- Behind the newest record. -/
  | latest
  deriving DecidableEq, Repr, Inhabited

namespace IteratorType

/-- The name of a place in messages. -/
def name : IteratorType → String
  | .atSequenceNumber => "AT_SEQUENCE_NUMBER"
  | .afterSequenceNumber => "AFTER_SEQUENCE_NUMBER"
  | .trimHorizon => "TRIM_HORIZON"
  | .latest => "LATEST"

/-- The shape of places. -/
def shape : Shape IteratorType :=
  .choice [.atSequenceNumber, .afterSequenceNumber, .trimHorizon, .latest] name

end IteratorType

/-- A request for a description of a stream. -/
structure DescribeStreamRequest where
  streamArn : String
  limit : Option UInt32 := none
  exclusiveStartShardId : Option String := none
  deriving DecidableEq, Repr, Inhabited

namespace DescribeStreamRequest

/-- The body of the request. -/
def toJson (r : DescribeStreamRequest) : Json :=
  .obj ([("StreamArn", .str r.streamArn)] ++
    optionMember "Limit" (fun n => .ofInt n.toNat) r.limit ++
    optionMember "ExclusiveStartShardId" .str r.exclusiveStartShardId)

/-- The request for the shards after those of a description, if there are more. -/
def next? (r : DescribeStreamRequest) (d : StreamDescription) : Option DescribeStreamRequest :=
  match d.lastEvaluatedShardId with
  | some shard =>
    if shard.isEmpty then none else some { r with exclusiveStartShardId := some shard }
  | none => none

end DescribeStreamRequest

/-- A place of a shard. -/
inductive ShardPlace where
  | trimHorizon
  | latest
  | at (sequenceNumber : String)
  | after (sequenceNumber : String)
  deriving DecidableEq, Repr, Inhabited

namespace ShardPlace

/-- What kind of place it is. -/
def type : ShardPlace → IteratorType
  | .trimHorizon => .trimHorizon
  | .latest => .latest
  | .at _ => .atSequenceNumber
  | .after _ => .afterSequenceNumber

/-- The sequence number that the place is at or after. -/
def sequenceNumber? : ShardPlace → Option String
  | .at n | .after n => some n
  | _ => none

end ShardPlace

/-- A request for an iterator. -/
structure ShardIteratorRequest where
  streamArn : String
  shardId : String
  place : ShardPlace
  deriving DecidableEq, Repr, Inhabited

/-- The body of the request. -/
def ShardIteratorRequest.toJson (r : ShardIteratorRequest) : Json :=
  .obj ([("StreamArn", .str r.streamArn), ("ShardId", .str r.shardId),
    ("ShardIteratorType", .str r.place.type.name)] ++
    optionMember "SequenceNumber" .str r.place.sequenceNumber?)

/-- A request for records. -/
structure GetRecordsRequest where
  shardIterator : String
  limit : Option UInt32 := none
  deriving DecidableEq, Repr, Inhabited

/-- The body of the request. -/
def GetRecordsRequest.toJson (r : GetRecordsRequest) : Json :=
  .obj ([("ShardIterator", .str r.shardIterator)] ++
    optionMember "Limit" (fun n => .ofInt n.toNat) r.limit)

/-- The response with records. -/
structure RecordsOutput where
  records : List ChangeRecord := []
  /-- Missing at the end of a closed shard. -/
  nextShardIterator : Option String := none
  deriving DecidableEq, Inhabited

/-! ### Exchanges -/

namespace Stream

/-- The target of requests for an operation on streams. -/
def target (name : String) : String := "DynamoDBStreams_20120810." ++ name

/-- The shape of responses with a description. -/
def descriptionOutput : Shape StreamDescription :=
  .record (.one (.defaulted "StreamDescription" StreamDescription.shape {}))

/-- The shape of responses with an iterator. -/
def iteratorOutput : Shape (Option String) := .record (.one (.nullable "ShardIterator" .string))

/-- The shape of responses with records. -/
def recordsOutput : Shape RecordsOutput :=
  .record <|
    (Fields.cons (.defaulted "Records" ChangeRecord.shape.list []) <|
      .one (.nullable "NextShardIterator" .string)).iso
    (fun o => (o.records, o.nextShardIterator))
    fun (records, nextShardIterator) => { records, nextShardIterator }

/-- The description of a stream. -/
def describe (r : DescribeStreamRequest) : Exchange StreamDescription :=
  .call (target "DescribeStream") (.ok r.toJson) (Exchange.reading descriptionOutput)

/-- An iterator into a shard. -/
def shardIterator (r : ShardIteratorRequest) : Exchange (Option String) :=
  .call (target "GetShardIterator") (.ok r.toJson) (Exchange.reading iteratorOutput)

/-- Records from an iterator. -/
def records (r : GetRecordsRequest) : Exchange RecordsOutput :=
  .call (target "GetRecords") (.ok r.toJson) (Exchange.reading recordsOutput)

end Stream

end Dynamo
