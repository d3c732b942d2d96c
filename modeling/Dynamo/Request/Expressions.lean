import Dynamo.Request.Options

/-! # Expressions of requests

A request may carry an expression in each of five places. They are texts that only the service
reads.

* `Expressions.get_set`: setting one expression leaves the others as they are. -/

namespace Dynamo

/-- A place of a request for an expression. -/
inductive Slot where
  /-- Which partition and which range of keys to read. -/
  | keyCondition
  /-- Which of the items that were read to drop. -/
  | filter
  /-- Which attributes to answer with. -/
  | projection
  /-- What to change. -/
  | update
  /-- What has to hold of the item before it is written. -/
  | condition
  deriving DecidableEq, Repr, Inhabited

namespace Slot

/-- All places, in the order in which they are written. -/
def all : List Slot := [.keyCondition, .filter, .projection, .update, .condition]

/-- The name of a place in messages. -/
def name : Slot → String
  | .keyCondition => "KeyConditionExpression"
  | .filter => "FilterExpression"
  | .projection => "ProjectionExpression"
  | .update => "UpdateExpression"
  | .condition => "ConditionExpression"

end Slot

/-- **The expressions of a request.** -/
structure Expressions where
  keyCondition : Option String := none
  filter : Option String := none
  projection : Option String := none
  update : Option String := none
  condition : Option String := none
  deriving DecidableEq, Repr, Inhabited

namespace Expressions

/-- The expression in a place. -/
def get (e : Expressions) : Slot → Option String
  | .keyCondition => e.keyCondition
  | .filter => e.filter
  | .projection => e.projection
  | .update => e.update
  | .condition => e.condition

/-- Puts an expression in a place. -/
def set (slot : Slot) (text : String) (e : Expressions) : Expressions :=
  match slot with
  | .keyCondition => { e with keyCondition := some text }
  | .filter => { e with filter := some text }
  | .projection => { e with projection := some text }
  | .update => { e with update := some text }
  | .condition => { e with condition := some text }

@[simp] theorem get_set (e : Expressions) (slot slot' : Slot) (text : String) :
    (e.set slot text).get slot' = if slot' = slot then some text else e.get slot' := by
  cases slot <;> cases slot' <;> rfl

/-- The members that the expressions are in a body. -/
def members (e : Expressions) : List (String × Json) :=
  Slot.all.flatMap fun slot => optionMember slot.name .str (e.get slot)

end Expressions

end Dynamo
