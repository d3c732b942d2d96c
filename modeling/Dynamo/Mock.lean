import Dynamo.Request.Data

/-! # A service for tests

A mock stands in for the service. It keeps the bodies of the requests it gets, and answers each
operation with the error or the answer that was set for it. It knows nothing about tables.

* `Mock.execute`: a request, after it was looked at as for the service itself.
* `Mock.receive`: the same without looking. -/

namespace Dynamo

/-- The body of a request that the mock got. -/
structure MockCall where
  operation : DataOperation
  input : operation.Input

/-- **The state of a mock.** -/
structure Mock where
  /-- What it got, the oldest first. -/
  calls : List MockCall
  /-- The errors that were set. -/
  errors : Operation → Option ServiceError
  /-- The answers to operations without an error. -/
  answers : (op : DataOperation) → op.Output

namespace MockCall

/-- The table that the call is about, if it is about one only. -/
def tableName? (c : MockCall) : Option String := c.operation.tableName? c.input

/-- The JSON of the body. -/
def toJson (c : MockCall) : Except EncodeError Json := c.operation.toJson c.input

end MockCall

/-- The page with the counts that its items give: a count of zero is the number of items, and then a
count of zero before filtering is the count. -/
def PageOutput.fillCounts (p : PageOutput) : PageOutput :=
  let count := if p.count = 0 then UInt64.ofNat p.items.length else p.count
  { p with count, scannedCount := if p.scannedCount = 0 then count else p.scannedCount }

/-- The answer with its counts filled in, if it is a page. -/
def DataOperation.fillCounts : (op : DataOperation) → op.Output → op.Output
  | .item .query, o | .item .scan, o => PageOutput.fillCounts o
  | .item .get, o | .item .put, o | .item .update, o | .item .delete, o => o
  | .batchGet, o | .batchWrite, o => o

namespace Mock

/-- The mock that got nothing yet, and answers everything with what is empty. -/
def new : Mock := ⟨[], fun _ => none, DataOperation.emptyOutput⟩

instance : Inhabited Mock := ⟨new⟩

/-- Answers an operation with an error from now on. -/
def setError (op : Operation) (e : ServiceError) (m : Mock) : Mock :=
  { m with errors := fun op' => if op' = op then some e else m.errors op' }

/-- Takes the error of an operation away. -/
def clearError (op : Operation) (m : Mock) : Mock :=
  { m with errors := fun op' => if op' = op then none else m.errors op' }

/-- Sets the answer to an operation. -/
def setAnswer (op : DataOperation) (o : op.Output) (m : Mock) : Mock :=
  { m with answers := fun op' => if h : op = op' then h ▸ op.fillCounts o else m.answers op' }

/-- Forgets what it got. -/
def clearCalls (m : Mock) : Mock := { m with calls := [] }

/-- Did it get a request for the operation? -/
def wasCalled (op : Operation) (m : Mock) : Bool := m.calls.any fun c => c.operation.operation = op

/-- The last request for the operation. -/
def lastCall? (op : Operation) (m : Mock) : Option MockCall :=
  m.calls.reverse.find? fun c => c.operation.operation = op

/-- What it answers an operation with. -/
def answer (op : DataOperation) (m : Mock) : Except Error op.Output :=
  match m.errors op.operation with
  | some e => .error (.service e)
  | none => .ok (m.answers op)

/-- **Gets a request.** -/
def receive (op : DataOperation) (r : op.Request) (m : Mock) : Except Error op.Output × Mock :=
  (m.answer op, { m with calls := m.calls ++ [⟨op, op.input r⟩] })

/-- **Gets a request, if nothing is wrong with it.** -/
def execute (op : DataOperation) (r : op.Request) (m : Mock) : Except Error op.Output × Mock :=
  match op.check r with
  | .ok () => m.receive op r
  | .error e => (.error e, m)

/-- What it does with requests about tables. -/
def tables {α : Type} : Except Error α := .error (.unsupported "table operations")

/-! ### What is set -/

theorem errors_setError (op op' : Operation) (e : ServiceError) (m : Mock) :
    (m.setError op e).errors op' = if op' = op then some e else m.errors op' := rfl

theorem errors_clearError (op op' : Operation) (m : Mock) :
    (m.clearError op).errors op' = if op' = op then none else m.errors op' := rfl

theorem answers_setAnswer_self (op : DataOperation) (o : op.Output) (m : Mock) :
    (m.setAnswer op o).answers op = op.fillCounts o := by
  simp [setAnswer]

theorem answers_setAnswer_of_ne {op op' : DataOperation} (h : op ≠ op') (o : op.Output) (m : Mock) :
    (m.setAnswer op o).answers op' = m.answers op' := by
  simp [setAnswer, h]

end Mock

end Dynamo
