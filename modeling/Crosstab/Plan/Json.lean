import Crosstab.Plan.Basic
import Crosstab.Spec.Json

/-!
The written form of plans. What a plan implies, such as labels, is written beside it and ignored
when it is read.
-/

namespace Crosstab

namespace Operand

def toJson : Operand → Json
  | .text s => .object [("text", .text s)]
  | .number x => .object [("number", .float x)]
  | .date s => .object [("date", .text s)]

def float? : Document → Option Float
  | .number (.int n) => some (Decimal.ofInt n)
  | .number (.float x) => some x
  | _ => none

def ofDocument? : Document → Option Operand
  | .record [("text", d)] => d.text?.map .text
  | .record [("number", d)] => (float? d).map .number
  | .record [("date", d)] => d.text?.map .date
  | _ => none

end Operand

namespace FilterValue

def toJson : FilterValue → Json
  | .absent => .null
  | .scalar operand => .object [("scalar", operand.toJson)]
  | .range low high => .object [("range", .list [low.toJson, high.toJson])]
  | .list items => .object [("list", .texts items)]
  | .pattern s => .object [("pattern", .text s)]

def ofDocument? : Document → Option FilterValue
  | .null => some .absent
  | .record [("scalar", d)] => (Operand.ofDocument? d).map .scalar
  | .record [("range", .list [low, high])] => do
    some (.range (← Operand.ofDocument? low) (← Operand.ofDocument? high))
  | .record [("list", d)] => (d.list? Document.text?).map .list
  | .record [("pattern", d)] => d.text?.map .pattern
  | _ => none

end FilterValue

def PlannedAxis.toJson (axis : PlannedAxis) : Json :=
  .object [
    ("alias", .text axis.key), ("label", .text axis.label), ("column", axis.column.toJson)]

def PlannedAxis.ofDocument? (d : Document) : Option PlannedAxis := do
  let fields ← d.fields? .json ["alias", "column"]
  let key ← Document.required? fields "alias" Document.text?
  let column ← Document.required? fields "column" Column.ofDocument?
  some { key, column }

def PlannedMeasure.toJson (m : PlannedMeasure) : Json :=
  .object [
    ("alias", .text m.key),
    ("label", .text m.label),
    ("aggregation", .text m.aggregation.name),
    ("column", m.column.toJson)]

def PlannedMeasure.ofDocument? (d : Document) : Option PlannedMeasure := do
  let fields ← d.fields? .json ["alias", "aggregation", "column"]
  let key ← Document.required? fields "alias" Document.text?
  let aggregation ← Document.required? fields "aggregation" Aggregation.ofDocument?
  let column ← Document.required? fields "column" Column.ofDocument?
  some { key, column, aggregation }

def PlannedFilter.toJson (f : PlannedFilter) : Json :=
  .object [
    ("column", f.column.toJson), ("operator", .text f.operator.name), ("value", f.value.toJson)]

def PlannedFilter.ofDocument? (d : Document) : Option PlannedFilter := do
  let fields ← d.fields? .json ["column", "operator", "value"]
  let column ← Document.required? fields "column" Column.ofDocument?
  let operator ← Document.required? fields "operator" FilterOperator.ofDocument?
  let value ← Document.optional? fields "value" .absent FilterValue.ofDocument?
  some { column, operator, value }

def PlannedJoin.toJson (join : PlannedJoin) : Json :=
  .object [
    ("leftEntity", .text join.leftEntity),
    ("rightEntity", .text join.rightEntity),
    ("kind", .text join.kind.name),
    ("pairs", .list (join.pairs.map FieldPair.toJson)),
    ("describe", .text join.describe)]

def PlannedJoin.ofDocument? (d : Document) : Option PlannedJoin := do
  let fields ← d.fields? .json ["leftEntity", "rightEntity", "kind", "pairs"]
  let leftEntity ← Document.required? fields "leftEntity" Document.text?
  let rightEntity ← Document.required? fields "rightEntity" Document.text?
  let kind ← Document.required? fields "kind" (JoinKind.ofDocument? .json)
  let pairs ← Document.optional? fields "pairs" [] (Document.list? FieldPair.ofDocument?)
  some { leftEntity, rightEntity, kind, pairs }

def Plan.toJson (plan : Plan) : Json :=
  .object [
    ("dimensions", .list (plan.dimensions.map PlannedAxis.toJson)),
    ("columnDimensions", .list (plan.columnDimensions.map PlannedAxis.toJson)),
    ("measures", .list (plan.measures.map PlannedMeasure.toJson)),
    ("filters", .list (plan.filters.map PlannedFilter.toJson)),
    ("sorts", .list (plan.sorts.map SortKey.toJson)),
    ("anchor", .text plan.anchor),
    ("join", (plan.join.map PlannedJoin.toJson).getD .null),
    ("referencedEntities", .texts plan.referencedEntities),
    ("limit", .int plan.limit.toNat),
    ("warnings", .texts plan.warnings),
    ("isPivot", .bool plan.isPivot),
    ("isGrouped", .bool plan.isGrouped)]

/-- A list that may be left out or be null. -/
def Document.listOrNone? {α : Type} (fields : List (String × Document)) (name : String)
    (read : Document → Option α) : Option (List α) :=
  (Document.nullable? fields name (Document.list? read)).map (·.getD [])

def Plan.ofDocument? (d : Document) : Option Plan := do
  let fields ←
    d.fields? .json
      ["dimensions", "columnDimensions", "measures", "filters", "sorts", "anchor", "join",
        "referencedEntities", "limit", "warnings"]
  let dimensions ← Document.listOrNone? fields "dimensions" PlannedAxis.ofDocument?
  let columnDimensions ← Document.listOrNone? fields "columnDimensions" PlannedAxis.ofDocument?
  let measures ← Document.listOrNone? fields "measures" PlannedMeasure.ofDocument?
  let filters ← Document.listOrNone? fields "filters" PlannedFilter.ofDocument?
  let sorts ← Document.listOrNone? fields "sorts" SortKey.ofDocument?
  let anchor ← Document.optional? fields "anchor" "" Document.text?
  let join ← Document.nullable? fields "join" PlannedJoin.ofDocument?
  let referencedEntities ← Document.listOrNone? fields "referencedEntities" Document.text?
  let limit ← Document.nullable? fields "limit" Document.word64?
  let warnings ← Document.listOrNone? fields "warnings" Document.text?
  some {
    dimensions, columnDimensions, measures, filters, sorts, anchor, join, referencedEntities
    limit := limit.getD defaultLimit, warnings }

end Crosstab
