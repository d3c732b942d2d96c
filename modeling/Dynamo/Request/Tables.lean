import Dynamo.Output
import Dynamo.Request.Options

/-! # Requests about tables

Besides the creation of a table, which takes a definition: the deletion and the description of a
table, which take its name, and lists of tables, which come in pages. -/

namespace Dynamo

/-- The body of a request that only names a table. -/
def tableNameJson (tableName : String) : Json := .obj [("TableName", .str tableName)]

/-- A request for a page of table names. -/
structure ListTablesRequest where
  exclusiveStartTableName : Option String := none
  limit : Option UInt32 := none
  deriving DecidableEq, Repr, Inhabited

namespace ListTablesRequest

/-- The body of the request. -/
def toJson (r : ListTablesRequest) : Json :=
  .obj (optionMember "ExclusiveStartTableName" .str r.exclusiveStartTableName ++
    optionMember "Limit" (fun n => .ofInt n.toNat) r.limit)

/-- The request for the page after a page, if there is more. -/
def next? (r : ListTablesRequest) (page : ListTablesOutput) : Option ListTablesRequest :=
  match page.lastEvaluatedTableName with
  | some name => if name.isEmpty then none else some { r with exclusiveStartTableName := some name }
  | none => none

end ListTablesRequest

end Dynamo
