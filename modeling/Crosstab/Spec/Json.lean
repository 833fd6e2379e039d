import Crosstab.Column
import Crosstab.Join.Json
import Crosstab.Json.Reader
import Crosstab.Spec.Basic

/-!
The written form of specifications. Reading fills in what a writer may leave out; writing leaves out
only a relationship or a filter value that is missing.
-/

namespace Crosstab

def Dimension.ofDocument? (d : Document) : Option Dimension := do
  let fields ← d.fields? .json ["id", "column", "alias"]
  let id ← Document.optional? fields "id" "" Document.text?
  let column ← Document.required? fields "column" Column.ofDocument?
  let key ← Document.required? fields "alias" Document.text?
  some { id, column, key }

def Dimension.toJson (d : Dimension) : Json :=
  .object [("id", .text d.id), ("column", d.column.toJson), ("alias", .text d.key)]

def Aggregation.ofDocument? (d : Document) : Option Aggregation :=
  d.constant? .json Aggregation.names

def Measure.ofDocument? (d : Document) : Option Measure := do
  let fields ← d.fields? .json ["id", "column", "aggregation", "alias"]
  let id ← Document.optional? fields "id" "" Document.text?
  let column ← Document.required? fields "column" Column.ofDocument?
  let aggregation ← Document.required? fields "aggregation" Aggregation.ofDocument?
  let key ← Document.required? fields "alias" Document.text?
  some { id, column, aggregation, key }

def Measure.toJson (m : Measure) : Json :=
  .object [
    ("id", .text m.id),
    ("column", m.column.toJson),
    ("aggregation", .text m.aggregation.name),
    ("alias", .text m.key)]

def FilterOperator.ofDocument? (d : Document) : Option FilterOperator :=
  d.constant? .json FilterOperator.names

def Filter.ofDocument? (d : Document) : Option Filter := do
  let fields ← d.fields? .json ["column", "operator", "value"]
  let column ← Document.required? fields "column" Column.ofDocument?
  let operator ← Document.required? fields "operator" FilterOperator.ofDocument?
  let value ← Document.nullable? fields "value" Document.toJson?
  some { column, operator, value }

def Filter.toJson (f : Filter) : Json :=
  .object
    ([("column", f.column.toJson), ("operator", .text f.operator.name)] ++
      (f.value.map fun value => ("value", value)).toList)

def SortDirection.ofDocument? (d : Document) : Option SortDirection :=
  d.constant? .json [("asc", .asc), ("desc", .desc)]

def SortKey.ofDocument? (d : Document) : Option SortKey := do
  let fields ← d.fields? .json ["referenceAlias", "direction"]
  let key ← Document.required? fields "referenceAlias" Document.text?
  let direction ← Document.optional? fields "direction" .asc SortDirection.ofDocument?
  some { key, direction }

def SortKey.toJson (s : SortKey) : Json :=
  .object [("referenceAlias", .text s.key), ("direction", .text s.direction.name)]

def Relationship.ofDocument? (d : Document) : Option Relationship := do
  let fields ←
    d.fields? .json ["leftEntity", "rightEntity", "joinKind", "fieldPairs", "enabled"]
  let leftEntity ← Document.required? fields "leftEntity" Document.text?
  let rightEntity ← Document.required? fields "rightEntity" Document.text?
  let kind ← Document.nullable? fields "joinKind" (JoinKind.ofDocument? .json)
  let pairs ← Document.optional? fields "fieldPairs" [] (Document.list? FieldPair.ofDocument?)
  let enabled ← Document.optional? fields "enabled" true Document.bool?
  some { leftEntity, rightEntity, kind, pairs, enabled }

def Relationship.toJson (r : Relationship) : Json :=
  .object
    ([("leftEntity", .text r.leftEntity), ("rightEntity", .text r.rightEntity)] ++
      (r.kind.map fun kind => ("joinKind", Json.text kind.name)).toList ++
      [("fieldPairs", .list (r.pairs.map FieldPair.toJson)), ("enabled", .bool r.enabled)])

/-- The specification that a document describes. Every part of it may be left out. -/
def Spec.ofDocument? (d : Document) : Option Spec := do
  let fields ←
    d.fields? .json
      ["entities", "dimensions", "columnDimensions", "measures", "filters", "sorts",
        "relationship", "limit"]
  let entities ← Document.optional? fields "entities" [] (Document.list? Document.text?)
  let dimensions ←
    Document.optional? fields "dimensions" [] (Document.list? Dimension.ofDocument?)
  let columnDimensions ←
    Document.optional? fields "columnDimensions" [] (Document.list? Dimension.ofDocument?)
  let measures ← Document.optional? fields "measures" [] (Document.list? Measure.ofDocument?)
  let filters ← Document.optional? fields "filters" [] (Document.list? Filter.ofDocument?)
  let sorts ← Document.optional? fields "sorts" [] (Document.list? SortKey.ofDocument?)
  let relationship ← Document.nullable? fields "relationship" Relationship.ofDocument?
  let limit ← Document.optional? fields "limit" defaultLimit Document.word64?
  some { entities, dimensions, columnDimensions, measures, filters, sorts, relationship, limit }

def Spec.toJson (spec : Spec) : Json :=
  .object
    ([("entities", .texts spec.entities),
      ("dimensions", .list (spec.dimensions.map Dimension.toJson)),
      ("columnDimensions", .list (spec.columnDimensions.map Dimension.toJson)),
      ("measures", .list (spec.measures.map Measure.toJson)),
      ("filters", .list (spec.filters.map Filter.toJson)),
      ("sorts", .list (spec.sorts.map SortKey.toJson))] ++
      (spec.relationship.map fun r => ("relationship", r.toJson)).toList ++
      [("limit", .int spec.limit.toNat)])

def Spec.ofJson? (value : Json) : Option Spec := Spec.ofDocument? (Document.ofJson value)

def Spec.ofText? (s : String) : Option Spec :=
  (Document.ofJsonText? s).bind Spec.ofDocument?

end Crosstab
