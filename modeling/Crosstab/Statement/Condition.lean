import Crosstab.Naming
import Crosstab.Plan.Basic
import Crosstab.Sql.Bindings

/-!
The conditions of a statement. A filter contributes one condition and the values it compares with;
the condition itself holds placeholders only. Texts compare in capitals, so that case does not
matter.
-/

namespace Crosstab

open Crosstab.Sql

def leftName : String := "l"

def rightName : String := "r"

/-- The name of the joined entity inside a sub-select. -/
def innerName : String := "r1"

/-- The form in which values are grouped: texts in capitals, with a label for missing ones. -/
def groupLabel (e : Expr) : Expr :=
  .upper (.coalesce [.cast e .text, .text missingLabel])

namespace Operand

def kind : Operand → ValueKind
  | .text _ => .text
  | .number _ => .numeric
  | .date _ => .date

def value : Operand → Value
  | .text s => .text s
  | .number x => .number x
  | .date s => .text s

end Operand

/-- A column in the form in which it compares with values of a kind. -/
def comparedAs (kind : ValueKind) (column : Expr) : Expr :=
  match kind with
  | .text => .upper (.cast column .text)
  | .numeric => .cast column .numeric
  | .date => .cast column .date

/-- A bound value in the form in which it compares with columns. -/
def boundAs (kind : ValueKind) (param : Expr) : Expr :=
  match kind with
  | .text => .upper param
  | .numeric => .cast param .numeric
  | .date => .cast param .date

/-- The comparison that an operator stands for. -/
def FilterOperator.comparator : FilterOperator → Comparator
  | .notEquals => .ne
  | .greaterThan => .gt
  | .lessThan => .lt
  | .greaterEqual => .ge
  | .lessEqual => .le
  | _ => .eq

namespace PlannedFilter

def operands (f : PlannedFilter) : List Value :=
  if f.operator.isNullary then []
  else
    match f.value with
    | .absent => []
    | .scalar operand => [operand.value]
    | .range low high => [low.value, high.value]
    | .list items => items.map .text
    | .pattern s => [.text s]

/-- The condition of a filter on a column, whose first placeholder has the number `first`. -/
def condition (f : PlannedFilter) (column : Expr) (first : Nat) : Expr :=
  match f.operator, f.value with
  | .isNull, _ => .isNull false column
  | .isNotNull, _ => .isNull true column
  | operator, .list items =>
    .among (operator = .notIn) (groupLabel column)
      ((List.range' first items.length).map fun n => .upper (.param n))
  | _, .pattern _ => .like false (comparedAs .text column) (.upper (.param first)) '\\'
  | _, .range low high =>
    .between false (comparedAs low.kind column) (boundAs low.kind (.param first))
      (boundAs high.kind (.param (first + 1)))
  | operator, .scalar operand =>
    .compare operator.comparator (comparedAs operand.kind column)
      (boundAs operand.kind (.param first))
  | _, .absent => .compare .eq (.int 1) (.int 1)

end PlannedFilter

/-- Where the columns of a plan are found: those of the anchor under the left name, all others under
the right one. -/
def Plan.columnExpr (plan : Plan) (names : Naming) (column : Column) : Expr :=
  .ofTable (if column.entity = plan.anchor then leftName else rightName)
    (names.column column.entity column.field)

/-- The conditions of filters, and the bindings after them. -/
def Plan.filterConditions (plan : Plan) (names : Naming) :
    List PlannedFilter → Bindings → List Expr × Bindings
  | [], bound => ([], bound)
  | f :: rest, bound =>
    let (others, all) := plan.filterConditions names rest (bound.append f.operands)
    (f.condition (plan.columnExpr names f.column) bound.next :: others, all)

namespace PlannedJoin

/-- The conditions of a join, with the right entity under a given name. A join without any is met by
all rows. -/
def conditions (join : PlannedJoin) (names : Naming) (rightName : String) : List Expr :=
  if join.pairs.isEmpty then [.compare .eq (.int 1) (.int 1)]
  else
    join.pairs.map fun pair =>
      .compare pair.comparator
        (.ofTable leftName (names.column join.leftEntity pair.leftField))
        (.ofTable rightName (names.column join.rightEntity pair.rightField))

end PlannedJoin

end Crosstab
