import Crosstab.Proofs.Plan.Operand
import Crosstab.Proofs.Sql.Placeholders
import Crosstab.Proofs.Statement.Compile

/-!
Placeholders and bound values. Filters bind their values while their conditions are built, and the
conditions are written in the order of the filters; so the placeholders of a statement count from
one upwards, and each stands for the value of its number.
-/

namespace Crosstab

open Crosstab.Sql

/-- Where nothing is bound, there are no parameters. -/
theorem Sql.parameters_of_bare {es : List Expr} (h : ∀ part ∈ es, part.IsBare) :
    parameters es = [] := by
  apply List.filterMap_eq_nil_iff.mpr
  intro part hMem
  have hBare := h part hMem
  cases part <;> first | rfl | exact hBare.elim

@[simp] theorem parameters_groupLabel (e : Expr) :
    parameters (groupLabel e).nodes = parameters e.nodes := by
  simp [groupLabel, Expr.upper, Expr.coalesce, Expr.nodes, exprNodes]

@[simp] theorem parameters_comparedAs (kind : ValueKind) (e : Expr) :
    parameters (comparedAs kind e).nodes = parameters e.nodes := by
  cases kind <;> simp [comparedAs, Expr.upper, Expr.nodes, exprNodes]

@[simp] theorem parameters_boundAs (kind : ValueKind) (e : Expr) :
    parameters (boundAs kind e).nodes = parameters e.nodes := by
  cases kind <;> simp [boundAs, Expr.upper, Expr.nodes, exprNodes]

@[simp] theorem parameters_aggregate (a : Aggregation) (e : Expr) :
    parameters (a.expr e).nodes = parameters e.nodes := by
  cases a <;>
    simp [Aggregation.expr, Expr.sum, Expr.avg, Expr.min, Expr.max, Expr.count, Expr.countDistinct,
      Expr.nodes, exprNodes]

theorem PlannedFilter.operands_eq (f : PlannedFilter) :
    f.operands = if f.operator.isNullary then [] else f.value.values := by
  unfold PlannedFilter.operands
  split <;> [rfl; cases f.value <;> rfl]

/-- Tests for null bind nothing. -/
theorem flatMap_operands (filters : List PlannedFilter) :
    filters.flatMap PlannedFilter.operands =
      (filters.filter fun f => !f.operator.isNullary).flatMap fun f => f.value.values := by
  induction filters with
  | nil => rfl
  | cons f rest ih =>
      rw [List.flatMap_cons, List.filter_cons, f.operands_eq, ih]
      cases f.operator.isNullary <;> simp

/-- A test for membership has the parameters of its members. -/
theorem parameters_among (negated : Bool) {operand : Expr} (h : parameters operand.nodes = [])
    (values : List Expr) :
    parameters (Expr.among negated operand values).nodes = parameters (exprNodes values) := by
  cases values <;> simp [Expr.nodes, exprNodes, h]

theorem parameters_members (numbers : List Nat) :
    parameters (exprNodes (numbers.map fun n => .upper (.param n))) = numbers := by
  rw [exprNodes_eq_flatMap, List.flatMap_map, parameters_flatMap]
  simp [Expr.upper, Expr.nodes, exprNodes]

/-- The condition of a filter has one placeholder for each value that the filter binds. -/
theorem PlannedFilter.parameters_condition (f : PlannedFilter) {column : Expr}
    (hColumn : parameters column.nodes = []) (first : Nat) :
    parameters (f.condition column first).nodes = List.range' first f.operands.length := by
  have hOther : f.operator ≠ .isNull → f.operator ≠ .isNotNull → f.operands = f.value.values :=
    fun hNull hNotNull => by simp [f.operands_eq, FilterOperator.isNullary_eq_false hNull hNotNull]
  unfold PlannedFilter.condition
  split
  next hOperator => simp [Expr.nodes, hColumn, f.operands_eq, hOperator, FilterOperator.isNullary]
  next hOperator => simp [Expr.nodes, hColumn, f.operands_eq, hOperator, FilterOperator.isNullary]
  next items hValue hNull hNotNull =>
    rw [hOther hNull hNotNull, hValue, parameters_among _ (by simpa using hColumn),
      parameters_members]
    simp [FilterValue.values]
  next s hValue hNull hNotNull =>
    rw [hOther hNull hNotNull, hValue]
    simp [Expr.nodes, Expr.upper, exprNodes, FilterValue.values, hColumn]
  next low high hValue hNull hNotNull =>
    rw [hOther hNull hNotNull, hValue]
    simp [Expr.nodes, FilterValue.values, hColumn, List.range']
  next operand hValue hNull hNotNull =>
    rw [hOther hNull hNotNull, hValue]
    simp [Expr.nodes, FilterValue.values, hColumn]
  next hValue hNull hNotNull =>
    rw [hOther hNull hNotNull, hValue]
    simp [Expr.nodes, FilterValue.values]

namespace Plan

variable (plan : Plan) (names : Naming)

theorem parameters_columnExpr (column : Column) :
    parameters (plan.columnExpr names column).nodes = [] := rfl

/-- Filters bind their values one after the other. -/
theorem filterConditions_values (filters : List PlannedFilter) (bound : Bindings) :
    (plan.filterConditions names filters bound).2.values =
      bound.values ++ filters.flatMap PlannedFilter.operands := by
  induction filters generalizing bound with
  | nil => simp [filterConditions]
  | cons f rest ih => simp [filterConditions, ih, Bindings.append]

/-- The placeholders of the conditions go on counting where the bindings before them ended. -/
theorem parameters_filterConditions (filters : List PlannedFilter) (bound : Bindings) :
    parameters (exprNodes (plan.filterConditions names filters bound).1) =
      List.range' bound.next (filters.flatMap PlannedFilter.operands).length := by
  induction filters generalizing bound with
  | nil => rfl
  | cons f rest ih =>
      have hColumn := plan.parameters_columnExpr names f.column
      have hNext : (bound.append f.operands).next = bound.next + f.operands.length := by
        simp [Bindings.next, Bindings.append, Bindings.size]
        omega
      have hRest := ih (bound.append f.operands)
      rw [hNext] at hRest
      calc parameters (exprNodes (plan.filterConditions names (f :: rest) bound).1)
        _ = List.range' bound.next f.operands.length ++
              List.range' (bound.next + f.operands.length)
                (rest.flatMap PlannedFilter.operands).length := by
            rw [filterConditions, exprNodes, parameters_append,
              f.parameters_condition hColumn, hRest]
        _ = List.range' bound.next ((f :: rest).flatMap PlannedFilter.operands).length := by
            rw [List.range'_append_1, List.flatMap_cons, List.length_append]

theorem parameters_items : parameters (itemNodes (plan.items names)) = [] := by
  rw [itemNodes_eq_flatMap, items, List.flatMap_append, List.flatMap_map, List.flatMap_map,
    parameters_append, parameters_flatMap, parameters_flatMap]
  simp [parameters_columnExpr]

theorem parameters_groups : parameters (exprNodes (plan.groups names)) = [] := by
  rw [exprNodes_eq_flatMap, groups, List.flatMap_map, parameters_flatMap]
  simp [parameters_columnExpr]

theorem parameters_orders : parameters (orderNodes plan.orders) = [] := by
  rw [orderNodes_eq_flatMap, parameters_flatMap]
  apply List.flatMap_eq_nil_iff.mpr
  intro order hMem
  obtain ⟨key, -, hExpr⟩ := plan.mem_orders hMem
  rw [hExpr]
  rfl

/-- A statement has the placeholders of its filters, since nothing else binds values. -/
theorem placeholders_statement (d : Dialect) (sourceLimit : UInt64)
    {clauses : List JoinItem × List Expr} (hJoins : ∀ part ∈ joinNodes clauses.1, part.IsBare)
    (hProbes : ∀ part ∈ exprNodes clauses.2, part.IsBare) :
    placeholders (plan.statement names d sourceLimit clauses).tokens =
      List.range' 1 (plan.filters.flatMap PlannedFilter.operands).length := by
  have hTests := plan.parameters_filterConditions names plan.filters {}
  rw [Statement.tokens, Query.placeholders_tokens]
  simp only [statement, Query.nodes, parameters_append, exprNodes_append, plan.parameters_items,
    plan.parameters_groups, plan.parameters_orders, parameters_of_bare hJoins,
    parameters_of_bare hProbes, hTests]
  simp [Bindings.next, Bindings.size]

end Plan

/-- A search binds the text that values have to begin with, if there is one besides blanks. -/
theorem Statement.values_distinctValues (column : Column) (start : Option String) (limit : UInt64)
    (names : Naming) (d : Dialect) :
    (∀ s, start = some s → Text.trim s ≠ "" →
      (distinctValues column start limit names d).values =
        [.text (escapePattern (Text.trim s) ++ "%")]) ∧
    ((∀ s, start = some s → Text.trim s = "") →
      (distinctValues column start limit names d).values = []) := by
  cases start with
  | none => simp [distinctValues]
  | some s => by_cases hBlank : Text.trim s = "" <;> simp [distinctValues, hBlank]

/-- So are the placeholders of a search. -/
theorem Statement.placeholders_distinctValues (column : Column) (start : Option String)
    (limit : UInt64) (names : Naming) (d : Dialect) :
    placeholders (distinctValues column start limit names d).tokens =
      List.range' 1 (distinctValues column start limit names d).values.length := by
  rw [Statement.tokens, Query.placeholders_tokens]
  unfold distinctValues
  cases (start.map Text.trim).filter (· ≠ "") <;>
    simp [Query.nodes, itemNodes, joinNodes, exprNodes, orderNodes, Expr.nodes, Expr.ofName,
      Expr.ofTable, Expr.countRows, Expr.upper]

/-- The placeholders of a statement are numbered from one, from left to right and without a gap, and
the bound values are those of the filters in their order, where a test for null has none. Every plan
has such a statement. So has the search for the values of a column, which binds what they have to
begin with. -/
theorem placeholders_match_values :
    (∀ (plan : Plan) (names : Naming) (d : Dialect) (sourceLimit : UInt64), ∃ s,
      plan.compile names d sourceLimit = .ok s ∧
      placeholders s.tokens = List.range' 1 s.values.length ∧
      s.values = (plan.filters.filter fun f => !f.operator.isNullary).flatMap
        fun f => f.value.values) ∧
    ∀ (column : Column) (start : Option String) (limit : UInt64) (names : Naming) (d : Dialect),
      let search := Statement.distinctValues column start limit names d
      placeholders search.tokens = List.range' 1 search.values.length ∧
      (∀ s, start = some s → Text.trim s ≠ "" →
        search.values = [.text (escapePattern (Text.trim s) ++ "%")]) ∧
      ((∀ s, start = some s → Text.trim s = "") → search.values = []) := by
  constructor
  · intro plan names d sourceLimit
    obtain ⟨clauses, -, hCompile, hJoins, hProbes⟩ := plan.compile_eq_ok names d sourceLimit
    have hValues : (plan.statement names d sourceLimit clauses).values =
        plan.filters.flatMap PlannedFilter.operands := by
      rw [Plan.statement, plan.filterConditions_values]
      rfl
    refine ⟨_, hCompile, ?_, ?_⟩
    · rw [hValues]
      exact plan.placeholders_statement names d sourceLimit hJoins hProbes
    · rw [hValues]
      exact flatMap_operands plan.filters
  · intro column start limit names d
    have hNumbers := Statement.placeholders_distinctValues column start limit names d
    have hValues := Statement.values_distinctValues column start limit names d
    exact ⟨hNumbers, hValues⟩

end Crosstab
