import Dynamo.Table.Schema

/-! # Records of changes -/

namespace Dynamo

open Decimal

/-- A change of an item. -/
structure Change where
  keys : Document := []
  oldImage : Option Document := none
  newImage : Option Document := none
  sequenceNumber : String := ""
  sizeBytes : UInt64 := 0
  streamViewType : Option StreamViewType := none
  /-- Seconds since the beginning of 1970. -/
  approximateCreationDateTime : Option Double := none
  deriving DecidableEq, Inhabited

/-- A record of a stream. -/
structure ChangeRecord where
  awsRegion : String := ""
  eventId : String := ""
  eventName : String := ""
  eventSource : String := ""
  eventVersion : String := ""
  change : Change := {}
  deriving DecidableEq, Inhabited

/-- The shape of changes. -/
def Change.shape : Shape Change :=
  .record <|
    (Fields.cons (.defaulted "Keys" .document []) <|
      .cons (.nullable "OldImage" .document) <|
      .cons (.nullable "NewImage" .document) <|
      .cons (.defaulted "SequenceNumber" .string "") <|
      .cons (.defaulted "SizeBytes" .nat64 0) <|
      .cons (.nullable "StreamViewType" StreamViewType.shape) <|
      .one (.nullable "ApproximateCreationDateTime" .double)).iso
    (fun c => (c.keys, c.oldImage, c.newImage, c.sequenceNumber, c.sizeBytes, c.streamViewType,
      c.approximateCreationDateTime))
    fun (keys, oldImage, newImage, sequenceNumber, sizeBytes, streamViewType,
        approximateCreationDateTime) =>
      { keys, oldImage, newImage, sequenceNumber, sizeBytes, streamViewType,
        approximateCreationDateTime }

/-- The shape of records. -/
def ChangeRecord.shape : Shape ChangeRecord :=
  .record <|
    (Fields.cons (.defaulted "awsRegion" .string "") <|
      .cons (.defaulted "eventID" .string "") <|
      .cons (.defaulted "eventName" .string "") <|
      .cons (.defaulted "eventSource" .string "") <|
      .cons (.defaulted "eventVersion" .string "") <|
      .one (.defaulted "dynamodb" Change.shape {})).iso
    (fun r => (r.awsRegion, r.eventId, r.eventName, r.eventSource, r.eventVersion, r.change))
    fun (awsRegion, eventId, eventName, eventSource, eventVersion, change) =>
      { awsRegion, eventId, eventName, eventSource, eventVersion, change }

end Dynamo
