import Dynamo.Shape

/-! # Options of requests

Choices that a request may make, and their names in messages. -/

namespace Dynamo

/-- How much is said about consumed capacity. -/
inductive CapacityDetail where
  | indexes
  | total
  | none
  deriving DecidableEq, Repr, Inhabited

/-- Which attributes a write answers with. -/
inductive ReturnValues where
  | none
  | allOld
  | updatedOld
  | allNew
  | updatedNew
  deriving DecidableEq, Repr, Inhabited

/-- What of the items a query or a scan answers with. -/
inductive Select where
  | allAttributes
  | allProjectedAttributes
  | specificAttributes
  | count
  deriving DecidableEq, Repr, Inhabited

/-- The name of a detail in messages. -/
def CapacityDetail.name : CapacityDetail → String
  | .indexes => "INDEXES"
  | .total => "TOTAL"
  | .none => "NONE"

/-- The name of the attributes to answer with in messages. -/
def ReturnValues.name : ReturnValues → String
  | .none => "NONE"
  | .allOld => "ALL_OLD"
  | .updatedOld => "UPDATED_OLD"
  | .allNew => "ALL_NEW"
  | .updatedNew => "UPDATED_NEW"

/-- Does a write with this option answer with attributes? -/
def ReturnValues.returnsAttributes (v : ReturnValues) : Bool := v ≠ .none

/-- The name of a selection in messages. -/
def Select.name : Select → String
  | .allAttributes => "ALL_ATTRIBUTES"
  | .allProjectedAttributes => "ALL_PROJECTED_ATTRIBUTES"
  | .specificAttributes => "SPECIFIC_ATTRIBUTES"
  | .count => "COUNT"

/-- The shape of details. -/
def CapacityDetail.shape : Shape CapacityDetail :=
  .choice [.indexes, .total, .none] CapacityDetail.name

/-- The shape of attributes to answer with. -/
def ReturnValues.shape : Shape ReturnValues :=
  .choice [.none, .allOld, .updatedOld, .allNew, .updatedNew] ReturnValues.name

/-- The shape of selections. -/
def Select.shape : Shape Select :=
  .choice [.allAttributes, .allProjectedAttributes, .specificAttributes, .count] Select.name

/-- A member of a body for an option that is set. -/
def optionMember {α : Type} (name : String) (f : α → Json) : Option α → List (String × Json)
  | some a => [(name, f a)]
  | none => []

/-- The member about consumed capacity. -/
def capacityMember : Option CapacityDetail → List (String × Json) :=
  optionMember "ReturnConsumedCapacity" fun d => .str d.name

end Dynamo
