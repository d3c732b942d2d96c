import Dynamo.Shape

/-! # Entries of batches

What a batch asks of one table: keys to read, or writes. Both occur in requests, and in responses
for what was not processed. -/

namespace Dynamo

/-- Keys to read from a table, and what to read of the items. -/
structure KeysAndAttributes where
  keys : List Document := []
  projectionExpression : Option String := none
  expressionAttributeNames : Dict String := .empty
  consistentRead : Bool := false
  deriving DecidableEq, Inhabited

/-- A write to a table. -/
inductive WriteRequest where
  | put (item : Document)
  | delete (key : Document)
  deriving DecidableEq, Inhabited

/-- The shape of keys to read. -/
def KeysAndAttributes.shape : Shape KeysAndAttributes :=
  .record <|
    (Fields.cons (.required "Keys" Shape.document.list) <|
      .cons (.optional "ProjectionExpression" .string) <|
      .cons (.dict "ExpressionAttributeNames" .string) <|
      .one (.flag "ConsistentRead")).iso
    (fun k => (k.keys, k.projectionExpression, k.expressionAttributeNames, k.consistentRead))
    fun (keys, projectionExpression, expressionAttributeNames, consistentRead) =>
      { keys, projectionExpression, expressionAttributeNames, consistentRead }

namespace WriteRequest

/-- The document that a write is about. -/
def document : WriteRequest → Document
  | .put item => item
  | .delete key => key

/-- The item of a put. -/
def item? : WriteRequest → Option Document
  | .put item => some item
  | .delete _ => none

/-- The key of a delete. -/
def key? : WriteRequest → Option Document
  | .put _ => none
  | .delete key => some key

/-- What a put says of its item. -/
def putShape : Shape Document := .record (.one (.required "Item" .document))

/-- What a delete says of its key. -/
def deleteShape : Shape Document := .record (.one (.required "Key" .document))

/-- **The shape of writes**: an object whose only member is named by the kind of write. -/
def shape : Shape WriteRequest where
  write
    | .put item => return .obj [("PutRequest", ← putShape.write item)]
    | .delete key => return .obj [("DeleteRequest", ← deleteShape.write key)]
  read
    | .obj [(name, j)] =>
      if name = "PutRequest" then (putShape.read j).map .put
      else if name = "DeleteRequest" then (deleteShape.read j).map .delete
      else .error .malformed
    | _ => .error .malformed

end WriteRequest

end Dynamo
