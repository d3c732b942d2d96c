import Dynamo.Shape

/-! # Consumed capacity -/

namespace Dynamo

open Decimal

/-- How much capacity something consumed. -/
structure Capacity where
  capacityUnits : Double := .zero
  deriving DecidableEq, Inhabited

/-- How much capacity a request consumed of a table, and of its indexes if that was asked for. -/
structure ConsumedCapacity where
  tableName : String := ""
  capacityUnits : Double := .zero
  table : Option Capacity := none
  globalSecondaryIndexes : Dict Capacity := .empty
  localSecondaryIndexes : Dict Capacity := .empty
  deriving DecidableEq, Inhabited

/-- The shape of capacities. -/
def Capacity.shape : Shape Capacity :=
  .record <| (Fields.one (.defaulted "CapacityUnits" .double .zero)).iso (·.capacityUnits) (⟨·⟩)

namespace ConsumedCapacity

/-- The shape of consumed capacities. -/
def shape : Shape ConsumedCapacity :=
  .record <|
    (Fields.cons (.defaulted "TableName" .string "") <|
      .cons (.defaulted "CapacityUnits" .double .zero) <|
      .cons (.optional "Table" Capacity.shape) <|
      .cons (.dict "GlobalSecondaryIndexes" Capacity.shape) <|
      .one (.dict "LocalSecondaryIndexes" Capacity.shape)).iso
    (fun c => (c.tableName, c.capacityUnits, c.table, c.globalSecondaryIndexes,
      c.localSecondaryIndexes))
    fun (tableName, capacityUnits, table, globalSecondaryIndexes, localSecondaryIndexes) =>
      { tableName, capacityUnits, table, globalSecondaryIndexes, localSecondaryIndexes }

/-- The first entry about a table. -/
def forTable? (entries : List ConsumedCapacity) (table : String) : Option ConsumedCapacity :=
  entries.find? fun c => c.tableName = table

end ConsumedCapacity

end Dynamo
