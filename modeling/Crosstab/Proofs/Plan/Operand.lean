import Crosstab.Plan.Operand
import Crosstab.Proofs.Except
import Crosstab.Statement.Condition

/-!
The form of filter values. What a caller sends decides which values are bound and, in a list, how
many; everything else about their form follows from the operator and from the kind of the column.
-/

namespace Crosstab

/-- A filter value without its contents. -/
inductive FilterForm where
  | absent
  | scalar (kind : ValueKind)
  | range (low high : ValueKind)
  | list (size : Nat)
  | pattern
deriving DecidableEq

namespace FilterValue

/-- The values that a filter value stands for, in order: the members of a list, the lower bound
before the upper one, the single value or the pattern. -/
def values : FilterValue → List Sql.Value
  | .absent => []
  | .scalar operand => [operand.value]
  | .range low high => [low.value, high.value]
  | .list items => items.map .text
  | .pattern s => [.text s]

def form : FilterValue → FilterForm
  | .absent => .absent
  | .scalar operand => .scalar operand.kind
  | .range low high => .range low.kind high.kind
  | .list items => .list items.length
  | .pattern _ => .pattern

end FilterValue

def FilterForm.size : FilterForm → Nat
  | .absent => 0
  | .scalar _ | .pattern => 1
  | .range _ _ => 2
  | .list size => size

/-- The form that an operator needs on a kind of column, with so many members if it is a list. -/
def FilterOperator.form (operator : FilterOperator) (kind : ValueKind) (size : Nat) : FilterForm :=
  match operator with
  | .isNull | .isNotNull => .absent
  | .isIn | .notIn => .list size
  | .between => .range kind kind
  | .contains | .startsWith | .endsWith => .pattern
  | .equals | .notEquals | .greaterThan | .lessThan | .greaterEqual | .lessEqual => .scalar kind

/-- Only the two tests for null take no value. -/
theorem FilterOperator.isNullary_eq_false {operator : FilterOperator} (hNull : operator ≠ .isNull)
    (hNotNull : operator ≠ .isNotNull) : operator.isNullary = false := by
  cases operator <;> first | rfl | contradiction

/-- The form of a value tells how many values are bound. -/
theorem FilterValue.length_values (value : FilterValue) :
    value.values.length = value.form.size := by
  cases value <;> simp [values, form, FilterForm.size]

end Crosstab
