import Crosstab.Proofs.Plan.Sound
import Crosstab.Proofs.Plan.Value
import Crosstab.Proofs.Statement.Placeholders

/-!
How filters are tested. The value of every filter that passes has the shape that its operator needs,
so the condition written for it is the one of its operator; the conditions for values that no
operator needs are never written.
-/

namespace Crosstab

open Crosstab.Sql

/-- What values of a kind are compared with. -/
inductive Operand.Matches : ValueKind → Operand → Prop
  | text (s : String) : Matches .text (.text s)
  | number {x : Float} (hFinite : x.isFinite) : Matches .numeric (.number x)
  | date {s : String} (hForm : IsDate s.toList) : Matches .date (.date s)

/-- The values that operators take on a column of a kind. -/
inductive FilterValue.Suits (kind : ValueKind) : FilterOperator → FilterValue → Prop
  | absent {operator : FilterOperator} (hOperator : operator ∈ [.isNull, .isNotNull]) :
      Suits kind operator .absent
  | list {operator : FilterOperator} {items : List String}
      (hOperator : operator ∈ [.isIn, .notIn]) : Suits kind operator (.list items)
  | range {low high : Operand} (hLow : low.Matches kind) (hHigh : high.Matches kind) :
      Suits kind .between (.range low high)
  | pattern {operator : FilterOperator} {s : String}
      (hOperator : operator ∈ [.contains, .startsWith, .endsWith]) :
      Suits kind operator (.pattern s)
  | scalar {operator : FilterOperator} {x : Operand}
      (hOperator : operator ∈ [.equals, .notEquals, .greaterThan, .lessThan, .greaterEqual,
        .lessEqual])
      (hOperand : x.Matches kind) : Suits kind operator (.scalar x)

/-- The condition that an operator stands for, between a column of a kind and placeholders for so
many values, numbered from `first` on. -/
inductive FilterOperator.Tests (kind : ValueKind) (column : Expr) (first : Nat) :
    FilterOperator → Nat → Expr → Prop
  | isNull : Tests kind column first .isNull 0 (.isNull false column)
  | isNotNull : Tests kind column first .isNotNull 0 (.isNull true column)
  | isIn (size : Nat) : Tests kind column first .isIn size
      (.among false (groupLabel column) ((List.range' first size).map fun n => .upper (.param n)))
  | notIn (size : Nat) : Tests kind column first .notIn size
      (.among true (groupLabel column) ((List.range' first size).map fun n => .upper (.param n)))
  | like {operator : FilterOperator} (hOperator : operator ∈ [.contains, .startsWith, .endsWith]) :
      Tests kind column first operator 1
        (.like false (comparedAs .text column) (.upper (.param first)) '\\')
  | between : Tests kind column first .between 2
      (.between false (comparedAs kind column) (boundAs kind (.param first))
        (boundAs kind (.param (first + 1))))
  | compare {operator : FilterOperator} {c : Comparator}
      (hOperator : operator.comparison? = some c) : Tests kind column first operator 1
        (.compare c (comparedAs kind column) (boundAs kind (.param first)))

theorem Operand.Matches.kind_eq {kind : ValueKind} {x : Operand} (h : x.Matches kind) :
    x.kind = kind := by
  cases h <;> rfl

/-- What a text denotes is something that columns of the kind compare with. -/
theorem Denotes.matches {kind : ValueKind} {s : String} {x : Operand} (h : Denotes kind s x) :
    x.Matches kind := by
  cases h with
  | number _ hFinite => exact .number hFinite
  | date hForm => exact .date hForm
  | text s => exact .text s

/-- What a raw value stands for suits the operator. -/
theorem FilterValue.Reads.suits {kind : ValueKind} {operator : FilterOperator} {given : Option Json}
    {value : FilterValue} (h : Reads kind operator given value) : value.Suits kind operator := by
  cases h with
  | absent hOperator => exact .absent hOperator
  | members hOperator => exact .list hOperator
  | bounds _ hLow hHigh => exact .range hLow.matches hHigh.matches
  | pattern hOperator => exact .pattern (by cases operator <;> simp_all [FilterOperator.wildcards?])
  | scalar hOperator _ _ hOperand =>
      exact .scalar (by cases operator <;> simp_all [FilterOperator.comparison?]) hOperand.matches

namespace FilterOperator

variable {operator : FilterOperator} {kind : ValueKind} {column test : Expr} {first size : Nat}

/-- The operators that compare with a single value are compared as they say. -/
theorem comparison?_eq (h : operator ∈ [.equals, .notEquals, .greaterThan, .lessThan, .greaterEqual,
    .lessEqual]) : operator.comparison? = some operator.comparator := by
  cases operator <;> first | rfl | simp at h

/-- Only one operator asks for equality. -/
theorem equals_of_comparison? (h : operator.comparison? = some .eq) : operator = .equals := by
  cases operator <;> first | rfl | cases h

/-- No test of a filter is the one that always holds. -/
theorem Tests.not_vacuous (h : operator.Tests kind column first size test) :
    test ≠ .compare .eq (.int 1) (.int 1) := by
  cases h with
  | compare => cases kind <;> simp [comparedAs, Expr.upper]
  | _ => simp

/-- Only `equals` is tested by an equation. -/
theorem Tests.equals_of_eq {left right : Expr}
    (h : operator.Tests kind column first size (.compare .eq left right)) : operator = .equals := by
  cases h with
  | compare hOperator => exact equals_of_comparison? hOperator

/-- Only `in` is tested by membership. -/
theorem Tests.isIn_of_among {operand : Expr} {items : List Expr}
    (h : operator.Tests kind column first size (.among false operand items)) :
    operator = .isIn := by
  cases h
  rfl

/-- A column and the two bounds it is tested against are written for the same kind. -/
theorem Tests.kinds_of_between {negated : Bool} {operand low high : Expr}
    (h : operator.Tests kind column first size (.between negated operand low high)) :
    operand = comparedAs kind column ∧ low = boundAs kind (.param first) ∧
      high = boundAs kind (.param (first + 1)) := by
  cases h
  exact ⟨rfl, rfl, rfl⟩

end FilterOperator

namespace PlannedFilter

variable {f : PlannedFilter}

/-- A filter that binds what its operator needs binds all values that it stands for. -/
theorem operands_of_suits (h : f.value.Suits f.column.kind f.operator) :
    f.operands = f.value.values := by
  obtain ⟨column, operator, value⟩ := f
  rw [operands_eq]
  dsimp only at h ⊢
  cases h with
  | absent => simp [FilterValue.values]
  | range => rfl
  | list hOperator | pattern hOperator | scalar hOperator =>
      cases operator <;> first | rfl | simp at hOperator

/-- The condition written for a filter is the one that its operator stands for. -/
theorem tests_condition (h : f.value.Suits f.column.kind f.operator) (column : Expr) (first : Nat) :
    f.operator.Tests f.column.kind column first f.value.values.length
      (f.condition column first) := by
  obtain ⟨⟨entity, field, label, kind, aggregatable⟩, operator, value⟩ := f
  dsimp only at h ⊢
  cases h with
  | absent hOperator =>
      cases operator <;> first | constructor | simp at hOperator
  | @list _ items hOperator =>
      rw [show (FilterValue.list items).values.length = items.length by simp [FilterValue.values]]
      cases operator <;> first | constructor | simp at hOperator
  | range hLow hHigh =>
      simp only [condition, hLow.kind_eq, hHigh.kind_eq]
      exact .between
  | pattern hOperator =>
      have hTest : FilterOperator.Tests kind column first operator 1 _ := .like hOperator
      cases operator <;> first | exact hTest | simp at hOperator
  | scalar hOperator hOperand =>
      have hTest : FilterOperator.Tests kind column first operator 1 _ :=
        .compare (FilterOperator.comparison?_eq hOperator)
      rw [← hOperand.kind_eq] at hTest ⊢
      cases operator <;> first | exact hTest | simp at hOperator

/-- A filter that is kept in full: its value suits its operator, its condition is the one that its
operator stands for, and the placeholders in it stand for just the values of the filter. Nothing
weaker takes the place of the condition. -/
structure Kept (f : PlannedFilter) (column : Expr) (bound : List Value) (test : Expr) : Prop where
  suits : f.value.Suits f.column.kind f.operator
  tested : ∃ first, 0 < first ∧ f.value.values <+: bound.drop (first - 1) ∧
    f.operator.Tests f.column.kind column first f.value.values.length test
  notVacuous : test ≠ .compare .eq (.int 1) (.int 1)
  equation : ∀ left right, test = .compare .eq left right → f.operator = .equals
  membership : ∀ operand items, test = .among false operand items → f.operator = .isIn
  range : ∀ negated operand low high, test = .between negated operand low high →
    ∃ x y, operand = comparedAs f.column.kind column ∧ low = boundAs f.column.kind x ∧
      high = boundAs f.column.kind y

/-- The condition of a filter keeps it, if its values are bound where it counts from. -/
theorem kept_condition (h : f.value.Suits f.column.kind f.operator) {column : Expr} {first : Nat}
    {bound : List Value} (hFirst : 0 < first) (hBound : f.operands <+: bound.drop (first - 1)) :
    f.Kept column bound (f.condition column first) := by
  have hTests := tests_condition h column first
  rw [operands_of_suits h] at hBound
  constructor
  case suits => exact h
  case tested => exact ⟨first, hFirst, hBound, hTests⟩
  case notVacuous => exact hTests.not_vacuous
  case equation =>
    intro left right hEq
    rw [hEq] at hTests
    exact hTests.equals_of_eq
  case membership =>
    intro operand items hEq
    rw [hEq] at hTests
    exact hTests.isIn_of_among
  case range =>
    intro negated operand low high hEq
    rw [hEq] at hTests
    exact ⟨_, _, hTests.kinds_of_between⟩

end PlannedFilter

/-- Filters with suitable values are all kept, each by a condition of its own. -/
theorem Plan.kept_filterConditions (plan : Plan) (names : Naming) {filters : List PlannedFilter}
    (h : ∀ f ∈ filters, f.value.Suits f.column.kind f.operator) (bound : Bindings) :
    List.Forall₂ (fun f test => f.Kept (plan.columnExpr names f.column)
        (plan.filterConditions names filters bound).2.values test)
      filters (plan.filterConditions names filters bound).1 := by
  induction filters generalizing bound with
  | nil => exact .nil
  | cons f rest ih =>
      obtain ⟨hFirst, hRest⟩ := List.forall_mem_cons.mp h
      refine .cons (PlannedFilter.kept_condition hFirst (Nat.succ_pos bound.size) ?_) (ih hRest _)
      -- The values of this filter follow those bound before it.
      rw [filterConditions_values, List.flatMap_cons]
      show f.operands <+: (bound.values ++ _).drop bound.values.length
      rw [List.drop_left]
      exact List.prefix_append _ _

/-- No filter is weakened. The filters of a plan are those of the specification, on the catalog's
columns and with their values read; each has its own condition in the statement, and is kept in it
in full. -/
theorem filters_kept {spec : Spec} {c : Catalog} {maxLimit : UInt64} {plan : Plan}
    (hSpec : spec.resolve c maxLimit = .ok plan) (names : Naming) (d : Dialect)
    (sourceLimit : UInt64) :
    List.Forall₂ (fun given f => f.operator = given.operator ∧
      c.column? given.column.entity given.column.field = some f.column ∧
      FilterValue.Reads f.column.kind given.operator given.value f.value)
      spec.filters plan.filters ∧
    ∃ s clauses tests, plan.clauses names d = .ok clauses ∧
      plan.compile names d sourceLimit = .ok s ∧ s.query.conditions = clauses.2 ++ tests ∧
      List.Forall₂ (fun f test => f.Kept (plan.columnExpr names f.column) s.values test)
        plan.filters tests := by
  have hPlan := Spec.resolve_ok hSpec
  have hRead : List.Forall₂ (fun given f => f.operator = given.operator ∧
      c.column? given.column.entity given.column.field = some f.column ∧
      FilterValue.Reads f.column.kind given.operator given.value f.value)
      spec.filters plan.filters := by
    apply hPlan.filters.imp
    intro given f hFilter
    obtain ⟨hOperator, hColumn, hValue⟩ := Catalog.resolveFilter_eq_ok.mp hFilter
    exact ⟨hOperator, (Catalog.resolveColumn_eq_ok.mp hColumn).2, FilterValue.read_eq_ok.mp hValue⟩
  have hSuits (f : PlannedFilter) (hMem : f ∈ plan.filters) :
      f.value.Suits f.column.kind f.operator := by
    obtain ⟨given, -, hOperator, -, hReads⟩ := exists_of_forall₂_right hRead hMem
    exact hOperator ▸ hReads.suits
  obtain ⟨clauses, hClauses, hCompile, -⟩ := plan.compile_eq_ok names d sourceLimit
  exact ⟨hRead, _, clauses, _, hClauses, hCompile, rfl, plan.kept_filterConditions names hSuits {}⟩

/-- The refunds for each reason over some days, except for a few reasons. -/
def Spec.refundsDuring (days reasons : Json) : Spec :=
  { Spec.refundsByReason with
    filters := [
      ⟨{ entity := "returns", field := "returnDate" }, .between, some days⟩,
      ⟨{ entity := "returns", field := "reason" }, .notIn, some reasons⟩] }

/-- A range of days and a list of excluded labels are kept as they are. -/
theorem kept_refundsDuring : ∃ c plan s probe tests,
    (Spec.refundsDuring (.text "2024-01-01, 2024-06-30") (.text "damaged")).resolve c 10 =
      .ok plan ∧
    plan.compile {} .sqlite 100 = .ok s ∧ s.query.conditions = probe :: tests ∧
    List.Forall₂ (fun f test => f.Kept (plan.columnExpr {} f.column) s.values test)
      plan.filters tests ∧
    tests = [
      .between false (.cast (.ofTable "l" "return_date") .date) (.cast (.param 1) .date)
        (.cast (.param 2) .date),
      .among true (groupLabel (.ofTable "l" "reason")) [.upper (.param 3)]] := by
  let c : Catalog := ⟨Builtin.entities, [("inventory", Builtin.inventoryColumns),
    ("returns", Builtin.returnColumns)], Builtin.joins⟩
  obtain ⟨-, s, clauses, tests, hClauses, hCompile, hConditions, hKept⟩ :=
    @filters_kept (.refundsDuring (.text "2024-01-01, 2024-06-30") (.text "damaged")) c 10 _ rfl {}
      .sqlite 100
  cases hClauses
  cases hCompile
  obtain rfl := List.append_cancel_left hConditions
  exact ⟨c, _, _, _, _, rfl, rfl, rfl, hKept, rfl⟩

end Crosstab
