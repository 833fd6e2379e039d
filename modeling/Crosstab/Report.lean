import Crosstab.Plan.Basic
import Crosstab.Statement.Basic
import Crosstab.Table.Spread

/-!
Reports: the answer to a specification, with its columns described and with warnings about what it
may not show.
-/

namespace Crosstab

open Crosstab.Text

structure ReportColumn where
  key : String
  label : String
  kind : ValueKind
deriving DecidableEq

/-- The answer to a specification. -/
structure Report where
  rows : List Row
  columns : List ReportColumn
  elapsedMillis : Nat
  warnings : List String

def ReportColumn.toJson (column : ReportColumn) : Json :=
  .object [
    ("key", .text column.key), ("label", .text column.label), ("type", .text column.kind.name)]

namespace Report

def rowCount (report : Report) : Nat := report.rows.length

def toJson (report : Report) : Json :=
  .object [
    ("rows", .list (report.rows.map Row.toJson)),
    ("columns", .list (report.columns.map ReportColumn.toJson)),
    ("rowCount", .int report.rowCount),
    ("executionTimeMs", .int report.elapsedMillis),
    ("warnings", .texts report.warnings)]

end Report

/-- The entity whose columns are missing where a row of the other has no match. -/
def PlannedJoin.paddedEntity? (join : PlannedJoin) : Option String :=
  match join.kind with
  | .left | .first => some join.rightEntity
  | .right => some join.leftEntity
  | .inner | .semi => none

def isMissing : Option Json → Bool
  | none | some .null => true
  | some (.text s) => s = upper missingLabel
  | some _ => false

namespace Plan

/-- Whether every axis over an entity is missing in every row. A plan without such an axis cannot
tell. -/
def neverMatched (plan : Plan) (entity : String) (rows : List Row) : Bool :=
  let keys := (plan.axes.filter fun axis => axis.column.entity = entity).map PlannedAxis.key
  !keys.isEmpty && rows.all fun row => keys.all fun key => isMissing (row.lookup key)

/-- What a join came to nothing by, if it did. -/
def joinOutcome? (plan : Plan) (join : PlannedJoin) (rows : List Row) : Option String :=
  if rows.isEmpty then some "returned no rows"
  else
    (join.paddedEntity?.filter fun entity => plan.neverMatched entity rows).map fun entity =>
      "matched no " ++ entity ++ " rows"

/-- The warning about a join that came to nothing. -/
def joinWarnings (plan : Plan) (rows : List Row) : List String :=
  match plan.join with
  | none => []
  | some join =>
    ((plan.joinOutcome? join rows).map fun outcome =>
      "the " ++ join.kind.name ++ " join between " ++ join.leftEntity ++ " and " ++
        join.rightEntity ++ " " ++ outcome ++ "; check that the field mapping (" ++ join.describe ++
        ") matches values in both entities").toList

def layout (plan : Plan) (cap : Nat) : PivotLayout where
  rowKeys := plan.dimensions.map PlannedAxis.key
  columnKeys := plan.columnDimensions.map PlannedAxis.key
  measureKeys := plan.measures.map PlannedMeasure.key
  cap := cap

/-- The columns of a pivoted report: the row axes, and each measure under each header. -/
def pivotColumns (plan : Plan) (headers : List String) : List ReportColumn :=
  (plan.dimensions.map fun axis => ⟨axis.key, axis.label, .text⟩) ++
    headers.flatMap fun header =>
      plan.measures.map fun m => ⟨cellKey header m.key, header ++ " - " ++ m.label, .numeric⟩

/-- The warnings of a pivot: about rows that were not read, texts that were put together, and rows
that are not returned. -/
def pivotWarnings (plan : Plan) (sourceLimit cap sourceRows : Nat) (table : PivotTable) :
    List String :=
  (if sourceLimit ≤ sourceRows then
    ["the pivot source reached its limit of " ++ toString sourceLimit ++
      " rows; totals may be incomplete"]
  else []) ++
  (if table.overflowed then
    ["column values beyond the first " ++ toString cap ++ " per axis were combined into \"" ++
      otherHeader ++ "\""]
  else []) ++
  if plan.limit.toNat < table.rows.length then
    ["the pivot produced " ++ toString table.rows.length ++ " rows; only the first " ++
      toString plan.limit.toNat ++ " are returned"]
  else []

end Plan

/-- The columns of a statement as columns of a report. -/
def Statement.reportColumns (s : Statement) : List ReportColumn :=
  s.columns.map fun column =>
    ⟨column.key, column.label,
      match column.kind with
      | .dimension => .text
      | .measure => .numeric⟩

namespace Plan

def flatReport (plan : Plan) (s : Statement) (rows : List Row) (elapsedMillis : Nat) : Report where
  rows
  columns := s.reportColumns
  elapsedMillis
  warnings := plan.warnings ++ plan.joinWarnings rows

def pivotReport (plan : Plan) (s : Statement) (rows : List Row) (elapsedMillis cap : Nat)
    (table : PivotTable) : Report where
  rows := table.rows.take plan.limit.toNat
  columns := plan.pivotColumns table.headers
  elapsedMillis
  warnings := plan.warnings ++ plan.joinWarnings rows ++
    plan.pivotWarnings s.limit.toNat cap rows.length table

/-- The report on the rows that a plan's statement yielded. They are pivoted if the plan asks for it
and there are any. There is no report if there is no room for the pivot. -/
def report? (plan : Plan) (s : Statement) (rows : List Row) (elapsedMillis cap : Nat) :
    Option Report :=
  if plan.isPivot && !rows.isEmpty then
    (pivot? rows (plan.layout cap)).map (plan.pivotReport s rows elapsedMillis cap)
  else some (plan.flatReport s rows elapsedMillis)

end Plan

end Crosstab
