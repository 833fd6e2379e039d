import Crosstab.Column
import Crosstab.Join.Basic
import Crosstab.Json.Basic

/-!
Query specifications: what a caller asks for, before anything is known of the entities it names. A
specification groups rows by its dimensions, spreads them over its column dimensions, and reports a
value for each measure.
-/

namespace Crosstab

/-- A grouping axis, whose values are reported under `key`. -/
structure Dimension where
  id : String := ""
  column : Column
  key : String

/-- How the values of a group become one value. -/
inductive Aggregation where
  | sum
  | avg
  | count
  | countDistinct
  | min
  | max
deriving DecidableEq

namespace Aggregation

def name : Aggregation → String
  | .sum => "SUM"
  | .avg => "AVG"
  | .count => "COUNT"
  | .countDistinct => "COUNT_DISTINCT"
  | .min => "MIN"
  | .max => "MAX"

def names : List (String × Aggregation) :=
  [Aggregation.sum, .avg, .count, .countDistinct, .min, .max].map fun a => (a.name, a)

def label : Aggregation → String
  | .sum => "Sum"
  | .avg => "Average"
  | .count => "Count"
  | .countDistinct => "Distinct Count"
  | .min => "Min"
  | .max => "Max"

/-- Whether the aggregation makes sense for numbers only. -/
def requiresNumeric : Aggregation → Bool
  | .sum | .avg | .min | .max => true
  | .count | .countDistinct => false

end Aggregation

/-- An aggregated value, reported under `key`. -/
structure Measure where
  id : String := ""
  column : Column
  aggregation : Aggregation
  key : String

/-- How a filter tests a column. -/
inductive FilterOperator where
  | equals
  | notEquals
  | contains
  | startsWith
  | endsWith
  | greaterThan
  | lessThan
  | greaterEqual
  | lessEqual
  | between
  | isNull
  | isNotNull
  | isIn
  | notIn
deriving DecidableEq

namespace FilterOperator

def name : FilterOperator → String
  | .equals => "equals"
  | .notEquals => "not_equals"
  | .contains => "contains"
  | .startsWith => "starts_with"
  | .endsWith => "ends_with"
  | .greaterThan => "greater_than"
  | .lessThan => "less_than"
  | .greaterEqual => "greater_equal"
  | .lessEqual => "less_equal"
  | .between => "between"
  | .isNull => "is_null"
  | .isNotNull => "is_not_null"
  | .isIn => "in"
  | .notIn => "not_in"

def names : List (String × FilterOperator) :=
  [FilterOperator.equals, .notEquals, .contains, .startsWith, .endsWith, .greaterThan, .lessThan,
    .greaterEqual, .lessEqual, .between, .isNull, .isNotNull, .isIn, .notIn].map fun op =>
      (op.name, op)

def isNullary : FilterOperator → Bool
  | .isNull | .isNotNull => true
  | _ => false

def takesList : FilterOperator → Bool
  | .isIn | .notIn | .between => true
  | _ => false

end FilterOperator

/-- A test on one column. The value stays as it was written; which form it needs depends on the
operator and on the kind of the column. -/
structure Filter where
  column : Column
  operator : FilterOperator
  value : Option Json := none

structure SortKey where
  key : String
  direction : SortDirection := .asc
deriving DecidableEq

/-- The caller's choice of how two entities are combined. -/
structure Relationship where
  leftEntity : String
  rightEntity : String
  kind : Option JoinKind := none
  pairs : List FieldPair := []
  enabled : Bool := true
deriving DecidableEq

namespace Relationship

/-- Whether the two entities are exactly these, in either order. -/
def connects (r : Relationship) (a b : String) : Bool :=
  (r.leftEntity = a && r.rightEntity = b) || (r.leftEntity = b && r.rightEntity = a)

/-- Whether one of the two entities is this one. -/
def touches (r : Relationship) (entity : String) : Bool :=
  r.leftEntity = entity || r.rightEntity = entity

def reversed (r : Relationship) : Relationship :=
  { r with
    leftEntity := r.rightEntity, rightEntity := r.leftEntity,
    pairs := r.pairs.map FieldPair.flipped }

end Relationship

def defaultLimit : UInt64 := 100

/-- A query specification. -/
structure Spec where
  entities : List String := []
  dimensions : List Dimension := []
  columnDimensions : List Dimension := []
  measures : List Measure := []
  filters : List Filter := []
  sorts : List SortKey := []
  relationship : Option Relationship := none
  limit : UInt64 := defaultLimit

namespace Spec

/-- The specification with one more declared entity, unless it is declared already. -/
def withEntity (spec : Spec) (entity : String) : Spec :=
  if spec.entities.contains entity then spec
  else { spec with entities := spec.entities ++ [entity] }

def withDimension (spec : Spec) (d : Dimension) : Spec :=
  { spec with dimensions := spec.dimensions ++ [d] }

def withColumnDimension (spec : Spec) (d : Dimension) : Spec :=
  { spec with columnDimensions := spec.columnDimensions ++ [d] }

def withMeasure (spec : Spec) (m : Measure) : Spec :=
  { spec with measures := spec.measures ++ [m] }

def withFilter (spec : Spec) (f : Filter) : Spec :=
  { spec with filters := spec.filters ++ [f] }

def withSort (spec : Spec) (s : SortKey) : Spec :=
  { spec with sorts := spec.sorts ++ [s] }

def axes (spec : Spec) : List Dimension := spec.dimensions ++ spec.columnDimensions

def keys (spec : Spec) : List String :=
  spec.axes.map Dimension.key ++ spec.measures.map Measure.key

/-- The columns named by axes, measures and filters. An order names keys, never columns. -/
def columns (spec : Spec) : List Column :=
  spec.axes.map Dimension.column ++ spec.measures.map Measure.column ++
    spec.filters.map Filter.column

/-- The entities of all columns named, each once, in order of first appearance. -/
def referencedEntities (spec : Spec) : List String :=
  Keyed.distinct (spec.columns.map Column.entity)

def isGrouped (spec : Spec) : Bool := !spec.axes.isEmpty

def isPivot (spec : Spec) : Bool := !spec.columnDimensions.isEmpty

end Spec

end Crosstab
