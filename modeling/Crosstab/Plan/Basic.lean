import Crosstab.Spec.Basic

/-!
Plans: specifications whose every name has been looked up and whose every filter value has been
read. A plan says what to ask the store, in the terms of the catalog rather than in the caller's.
-/

namespace Crosstab

open Crosstab.Text

structure PlannedAxis where
  key : String
  column : Column

def PlannedAxis.label (axis : PlannedAxis) : String := axis.column.label

structure PlannedMeasure where
  key : String
  column : Column
  aggregation : Aggregation

def PlannedMeasure.label (m : PlannedMeasure) : String :=
  m.aggregation.label ++ " of " ++ m.column.label

/-- A value that a filter compares with, of the kind of the column. -/
inductive Operand where
  | text (s : String)
  | number (x : Float)
  | date (s : String)

inductive FilterValue where
  | absent
  | scalar (operand : Operand)
  | range (low high : Operand)
  | list (items : List String)
  /-- A pattern in which the caller's own wildcards are escaped. -/
  | pattern (s : String)

structure PlannedFilter where
  column : Column
  operator : FilterOperator
  value : FilterValue

/-- The way in which a second entity takes part. -/
structure PlannedJoin where
  leftEntity : String
  rightEntity : String
  kind : JoinKind
  pairs : List FieldPair

/-- The conditions with the entities in front of the fields, as they are shown to people. -/
def PlannedJoin.describe (join : PlannedJoin) : String :=
  joined ", " (join.pairs.map fun pair =>
    join.leftEntity ++ "." ++ pair.leftField ++ " " ++ pair.comparator.symbol ++ " " ++
      join.rightEntity ++ "." ++ pair.rightField)

/-- What to ask the store. -/
structure Plan where
  dimensions : List PlannedAxis := []
  columnDimensions : List PlannedAxis := []
  measures : List PlannedMeasure := []
  filters : List PlannedFilter := []
  sorts : List SortKey := []
  /-- The entity that rows are read from. -/
  anchor : String
  join : Option PlannedJoin := none
  /-- The entities that axes, measures and filters name, each once. -/
  referencedEntities : List String := []
  limit : UInt64 := defaultLimit
  warnings : List String := []

namespace Plan

/-- The axes, rows before columns. -/
def axes (plan : Plan) : List PlannedAxis := plan.dimensions ++ plan.columnDimensions

def keys (plan : Plan) : List String :=
  plan.axes.map PlannedAxis.key ++ plan.measures.map PlannedMeasure.key

def isPivot (plan : Plan) : Bool := !plan.columnDimensions.isEmpty

def isGrouped (plan : Plan) : Bool := !plan.axes.isEmpty

end Plan

end Crosstab
