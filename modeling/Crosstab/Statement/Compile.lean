import Crosstab.Plan.Operand
import Crosstab.Statement.Basic
import Crosstab.Statement.Condition

/-!
From plans to statements. A statement groups by the axes in their labelled form, reports the
measures of each group, and is ordered by the first measure unless the plan orders otherwise.
-/

namespace Crosstab

open Crosstab.Sql

inductive CompileFault where
  | firstJoinUnsupported (dialect : Dialect)

def CompileFault.message : CompileFault → String
  | .firstJoinUnsupported dialect =>
    "dialect '" ++ dialect.name ++
      "' has neither LATERAL nor a row identity; cannot compile a 'first' join"

/-- The number of rows read for a pivot unless settings say otherwise. -/
def defaultSourceLimit : UInt64 := 100000

def Naming.tableRef (names : Naming) (entity name : String) : TableRef :=
  { schema := names.schema, table := names.table entity, name := some name }

/-- The aggregate of an expression. All but counts are taken of numbers. -/
def Aggregation.expr (a : Aggregation) (e : Expr) : Expr :=
  match a with
  | .sum => .sum (.cast e .numeric)
  | .avg => .avg (.cast e .numeric)
  | .min => .min (.cast e .numeric)
  | .max => .max (.cast e .numeric)
  | .count => .count e
  | .countDistinct => .countDistinct e

namespace PlannedJoin

/-- The rows of the right entity that match a row of the left. -/
def matching (join : PlannedJoin) (names : Naming) (items : List Item) (limit : Option UInt64) :
    Query :=
  { Query.empty with
    items, limit
    source := some (names.tableRef join.rightEntity innerName)
    conditions := join.conditions names innerName }

/-- The right entity as a whole, joined under given conditions. -/
def tableJoin (join : PlannedJoin) (names : Naming) (type : JoinType) (conditions : List Expr) :
    JoinItem :=
  ⟨type, .table (names.tableRef join.rightEntity rightName), conditions⟩

/-- How a join takes part in a query: as a joined table, or as one more condition. A single matching
row is picked by a sub-select in the join or, where the dialect has none, by its row identity; which
row that is stays open. -/
def clauses (join : PlannedJoin) (names : Naming) (d : Dialect) :
    Except CompileFault (List JoinItem × List Expr) :=
  match join.kind with
  | .inner => .ok ([join.tableJoin names .inner (join.conditions names rightName)], [])
  | .left => .ok ([join.tableJoin names .left (join.conditions names rightName)], [])
  | .right => .ok ([join.tableJoin names .right (join.conditions names rightName)], [])
  | .first =>
    if d.hasLateral then
      .ok ([⟨.left, .lateral (join.matching names [⟨.star none, none⟩] (some 1)) rightName, []⟩],
        [])
    else
      match d.rowIdentity? with
      | some row =>
        let pick := join.matching names [⟨.ofTable innerName row, none⟩] (some 1)
        .ok ([join.tableJoin names .left [.compare .eq (.ofTable rightName row) (.scalar pick)]],
          [])
      | none => .error (.firstJoinUnsupported d)
  | .semi => .ok ([], [.nonempty (join.matching names [⟨.int 1, none⟩] none)])

end PlannedJoin

namespace Plan

/-- The axes in the form in which they are grouped. -/
def groups (plan : Plan) (names : Naming) : List Expr :=
  plan.axes.map fun axis => groupLabel (plan.columnExpr names axis.column)

/-- The projected expressions, axes before measures. -/
def items (plan : Plan) (names : Naming) : List Item :=
  (plan.axes.map fun axis => ⟨groupLabel (plan.columnExpr names axis.column), some axis.key⟩) ++
    plan.measures.map fun m => ⟨m.aggregation.expr (plan.columnExpr names m.column), some m.key⟩

def outputColumns (plan : Plan) : List OutputColumn :=
  (plan.axes.map fun axis => ⟨axis.key, axis.label, .dimension⟩) ++
    plan.measures.map fun m => ⟨m.key, m.label, .measure⟩

/-- The order of the rows: the plan's own, or else the first measure downwards. -/
def orders (plan : Plan) : List OrderItem :=
  if plan.sorts.isEmpty then
    (plan.measures.head?.map fun m => ⟨.ofName m.key, some .desc⟩).toList
  else plan.sorts.map fun s => ⟨.ofName s.key, some s.direction⟩

/-- The largest number of rows to read. A pivot needs every group, so it has a limit of its own. -/
def rowLimit (plan : Plan) (sourceLimit : UInt64) : UInt64 :=
  if plan.isPivot then sourceLimit else plan.limit

def compile (plan : Plan) (names : Naming) (d : Dialect) (sourceLimit : UInt64) :
    Except CompileFault Statement := do
  let (joins, probes) ←
    match plan.join with
    | some join => join.clauses names d
    | none => .ok ([], [])
  let (tests, bound) := plan.filterConditions names plan.filters {}
  return {
    dialect := d
    query := {
      items := plan.items names
      source := some (names.tableRef plan.anchor leftName)
      joins
      conditions := probes ++ tests
      groups := plan.groups names
      orders := plan.orders
      limit := some (plan.rowLimit sourceLimit) }
    values := bound.values
    columns := plan.outputColumns
    limit := plan.rowLimit sourceLimit }

end Plan

/-- The statement for the values of a column in their grouped form, the most frequent first and
equally frequent ones in ascending order, as far as they begin with `start`. -/
def Statement.distinctValues (column : Column) (start : Option String) (limit : UInt64)
    (names : Naming) (d : Dialect) : Statement :=
  let value := groupLabel (.ofTable leftName (names.column column.entity column.field))
  let patterns :=
    ((start.map Text.trim).filter (· ≠ "")).toList.map fun s => Value.text (escapePattern s ++ "%")
  { dialect := d
    query := {
      items := [⟨value, some "value"⟩, ⟨.countRows, some "count"⟩]
      source := some (names.tableRef column.entity leftName)
      joins := []
      conditions :=
        if patterns.isEmpty then [] else [.like false value (.upper (.param 1)) '\\']
      groups := [value]
      orders := [⟨.ofName "count", some .desc⟩, ⟨.ofName "value", some .asc⟩]
      limit := some limit }
    values := patterns
    columns := [⟨"value", column.label, .dimension⟩, ⟨"count", "Count", .measure⟩]
    limit }

end Crosstab
