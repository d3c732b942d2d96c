import Dynamo.Bindings
import Dynamo.Operation
import Dynamo.Output
import Dynamo.Request.Expressions

/-! # Bodies of requests about items

Six operations read or write single items, or page through the items of a table. Their bodies have
most members in common; an operation differs in the document that it is about, and in the options
that it knows.

* `ItemInput.toJson`: the body, from which whatever is not set is left out.
* `ItemInput.documents`: the documents that the body holds. -/

namespace Dynamo

/-- An operation on items. -/
inductive ItemOperation where
  | get
  | put
  | update
  | delete
  | query
  | scan
  deriving DecidableEq, Repr, Inhabited

namespace ItemOperation

/-- The operation of the service. -/
def operation : ItemOperation → Operation
  | .get => .getItem
  | .put => .putItem
  | .update => .updateItem
  | .delete => .deleteItem
  | .query => .query
  | .scan => .scan

/-- Does the operation write one item? -/
def writes : ItemOperation → Bool
  | .put | .update | .delete => true
  | _ => false

/-- Does the operation answer with pages of items? -/
def isPaged : ItemOperation → Bool
  | .query | .scan => true
  | _ => false

/-- The expressions that the operation knows. -/
def slots : ItemOperation → List Slot
  | .get => [.projection]
  | .put | .delete => [.condition]
  | .update => [.update, .condition]
  | .query => [.keyCondition, .filter, .projection]
  | .scan => [.filter, .projection]

/-- The name of the document that the operation is about: a whole item, or the key of one. -/
def subjectName? : ItemOperation → Option String
  | .put => some "Item"
  | .get | .update | .delete => some "Key"
  | .query | .scan => none

/-- What the operation answers with. -/
def Output : ItemOperation → Type
  | .get => GetOutput
  | .put | .update | .delete => WriteOutput
  | .query | .scan => PageOutput

/-- The shape of the answers. -/
def outputShape : (op : ItemOperation) → Shape op.Output
  | .get => GetOutput.shape
  | .put | .update | .delete => WriteOutput.shape
  | .query | .scan => PageOutput.shape

/-- The answer in which every member is missing. -/
def emptyOutput : (op : ItemOperation) → op.Output
  | .get => ({} : GetOutput)
  | .put | .update | .delete => ({} : WriteOutput)
  | .query | .scan => ({} : PageOutput)

end ItemOperation

/-- A part of a scan that is done in parts. -/
structure Segment where
  index : UInt32
  /-- How many parts there are. -/
  total : UInt32
  deriving DecidableEq, Repr, Inhabited

/-- **The body of a request about items.** -/
structure ItemInput (op : ItemOperation) where
  tableName : String
  /-- The item or the key that the operation is about, if it is about one. -/
  subject : Document := []
  indexName : Option String := none
  expressions : Expressions := {}
  select : Option Select := none
  limit : Option UInt32 := none
  consistentRead : Bool := false
  scanIndexForward : Option Bool := none
  segment : Option Segment := none
  exclusiveStartKey : Option Document := none
  returnValues : Option ReturnValues := none
  returnConsumedCapacity : Option CapacityDetail := none
  bindings : Bindings := .empty
  deriving DecidableEq

namespace ItemInput

variable {op : ItemOperation}

/-- The document that the operation is about. -/
def subject? (i : ItemInput op) : Option Document := op.subjectName?.map fun _ => i.subject

/-- The documents in the body, in the order in which they are looked at. -/
def documents (i : ItemInput op) : List Document :=
  i.subject?.toList ++ i.exclusiveStartKey.toList ++ [i.bindings.values]

/-- The member of a document, if there is one. -/
def documentMember (name : String) : Option Document → Except EncodeError (List (String × Json))
  | some m => return [(name, ← m.toJson)]
  | none => return []

/-- The members of the body. -/
def members (i : ItemInput op) : Except EncodeError (List (String × Json)) := do
  let subject ← documentMember (op.subjectName?.getD "") i.subject?
  let start ← documentMember "ExclusiveStartKey" i.exclusiveStartKey
  let bound ← i.bindings.members
  return [("TableName", .str i.tableName)] ++ subject ++
    optionMember "IndexName" .str i.indexName ++ i.expressions.members ++
    optionMember "Select" (fun s => .str s.name) i.select ++
    optionMember "Limit" (fun n => .ofInt n.toNat) i.limit ++
    (if i.consistentRead then [("ConsistentRead", .bool true)] else []) ++
    optionMember "ScanIndexForward" .bool i.scanIndexForward ++
    optionMember "Segment" (fun s => .ofInt s.index.toNat) i.segment ++
    optionMember "TotalSegments" (fun s => .ofInt s.total.toNat) i.segment ++ start ++
    optionMember "ReturnValues" (fun v => .str v.name) i.returnValues ++
    capacityMember i.returnConsumedCapacity ++ bound

/-- **The JSON of the body.** -/
def toJson (i : ItemInput op) : Except EncodeError Json := i.members.map .obj

end ItemInput

end Dynamo
