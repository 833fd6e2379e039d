import Crosstab.Proofs.Plan.Operand
import Crosstab.Proofs.Statement.Compile
import Crosstab.Proofs.Statement.JoinScope

/-!
What statements mention beside their joins. Whatever is projected, tested or grouped by mentions a
single column, however often its value is normalized, cast or aggregated.
-/

namespace Crosstab

open Crosstab.Sql

/-- An expression that mentions nothing but a column, under a name that stands for its entity. -/
def Sql.Expr.MentionsOnly (names : Naming) (scope : Scope) (column : Column) (e : Expr) : Prop :=
  ∃ table, e.mentions scope = [.used scope table (some (names.column column.entity column.field))] ∧
    scope.StandsFor names table column.entity

namespace Sql

/-- A mention of a column of the specification. -/
theorem Expr.MentionsOnly.isField {names : Naming} {scope : Scope} {column : Column} {e : Expr}
    (h : e.MentionsOnly names scope column) {m : Mention} (hMem : m ∈ e.mentions scope) :
    m.IsField names column.entity column.field := by
  obtain ⟨table, hMentions, hScope⟩ := h
  rw [hMentions, List.mem_singleton] at hMem
  subst hMem
  exact ⟨rfl, hScope⟩

theorem Expr.MentionsOnly.boundNames_eq_nil {names : Naming} {scope : Scope} {column : Column}
    {e : Expr} (h : e.MentionsOnly names scope column) : boundNames (e.mentions scope) = [] := by
  obtain ⟨table, hMentions, -⟩ := h
  rw [hMentions]
  rfl

/-- A name that is not bound around an expression is not used there. -/
theorem Expr.MentionsOnly.not_used {names : Naming} {scope : Scope} {column : Column} {e : Expr}
    (h : e.MentionsOnly names scope column) {name : String}
    (hName : name ∉ scope.map JoinSource.binder) (other : Scope) (found : Option String) :
    .used other name found ∉ e.mentions scope := by
  obtain ⟨table, hMentions, source, hFind, -⟩ := h
  intro hMem
  rw [hMentions, List.mem_singleton, Mention.used.injEq] at hMem
  obtain ⟨-, rfl, -⟩ := hMem
  have hBinder : source.binder = name := by simpa using List.find?_some hFind
  exact hName (hBinder ▸ List.mem_map_of_mem (List.mem_of_find?_eq_some hFind))

section Columns

variable {names : Naming} {scope : Scope} {columns : List Column} {es : List Expr}
  (h : ∀ e ∈ es, ∃ column ∈ columns, e.MentionsOnly names scope column)

include h

/-- What expressions mention, one of them mentions. -/
theorem exists_mentionsOnly {m : Mention} (hMem : m ∈ exprMentions scope es) :
    ∃ column ∈ columns, ∃ e : Expr, e.MentionsOnly names scope column ∧ m ∈ e.mentions scope := by
  rw [exprMentions_eq_flatMap] at hMem
  obtain ⟨e, hExpr, hMention⟩ := List.mem_flatMap.mp hMem
  obtain ⟨column, hColumn, hOnly⟩ := h e hExpr
  exact ⟨column, hColumn, e, hOnly, hMention⟩

/-- Columns bind no names. -/
theorem boundNames_exprMentions : boundNames (exprMentions scope es) = [] := by
  rw [exprMentions_eq_flatMap, boundNames, List.filterMap_flatMap, List.flatMap_eq_nil_iff]
  intro e hMem
  obtain ⟨column, -, hOnly⟩ := h e hMem
  exact hOnly.boundNames_eq_nil

end Columns

end Sql

section Mentions

variable (scope : Scope)

@[simp] theorem mentions_groupLabel (e : Expr) :
    (groupLabel e).mentions scope = e.mentions scope := by
  simp [groupLabel, Expr.upper, Expr.coalesce, Expr.mentions, exprMentions]

@[simp] theorem mentions_comparedAs (kind : ValueKind) (e : Expr) :
    (comparedAs kind e).mentions scope = e.mentions scope := by
  cases kind <;> simp [comparedAs, Expr.upper, Expr.mentions, exprMentions]

@[simp] theorem mentions_boundAs (kind : ValueKind) (n : Nat) :
    (boundAs kind (.param n)).mentions scope = [] := by
  cases kind <;> simp [boundAs, Expr.upper, Expr.mentions, exprMentions]

@[simp] theorem mentions_aggregate (a : Aggregation) (e : Expr) :
    (a.expr e).mentions scope = e.mentions scope := by
  cases a <;>
    simp [Aggregation.expr, Expr.sum, Expr.avg, Expr.min, Expr.max, Expr.count, Expr.countDistinct,
      Expr.mentions, exprMentions]

/-- A test mentions its column once, unless it has no value to compare with. -/
theorem PlannedFilter.mentions_condition (f : PlannedFilter)
    (h : f.value = .absent → f.operator.isNullary) (column : Expr) (first : Nat) :
    (f.condition column first).mentions scope = column.mentions scope := by
  unfold condition
  split
  next => rfl
  next => rfl
  next =>
    simp [Expr.mentions, exprMentions_eq_flatMap, Expr.upper, exprMentions, List.flatMap_map]
  next => simp [Expr.mentions, Expr.upper, exprMentions]
  next => simp [Expr.mentions]
  next => simp [Expr.mentions]
  next hValue hNull hNotNull =>
    have hNullary := h hValue
    rw [FilterOperator.isNullary_eq_false hNull hNotNull] at hNullary
    cases hNullary

end Mentions

namespace Plan

variable {plan : Plan} {names : Naming} {d : Dialect}

/-- The scope behind the join of a plan. -/
def scope (plan : Plan) (names : Naming) (clauses : List JoinItem × List Expr) : Scope :=
  joinScope clauses.1 (leftScope names plan.anchor)

/-- A column of a plan is mentioned as the column that the specification named. -/
theorem mentionsOnly_columnExpr {scope : Scope} {column entry : Column}
    (hEntity : entry.entity = column.entity) (hField : entry.field = column.field)
    (hScope : scope.StandsFor names (if column.entity = plan.anchor then leftName else rightName)
      column.entity) :
    (plan.columnExpr names entry).MentionsOnly names scope column := by
  refine ⟨_, ?_, hScope⟩
  rw [columnExpr, hEntity, hField]
  rfl

/-- Tests mention the columns of their filters. -/
theorem mentionsOnly_filterConditions {scope : Scope} {fs : List Filter}
    {planned : List PlannedFilter}
    (h : List.Forall₂ (fun f planned => (planned.value = .absent → planned.operator.isNullary) ∧
      (plan.columnExpr names planned.column).MentionsOnly names scope f.column) fs planned)
    (bound : Bindings) :
    List.Forall₂ (fun f test => test.MentionsOnly names scope f.column) fs
      (plan.filterConditions names planned bound).1 := by
  induction h generalizing bound with
  | nil => exact .nil
  | @cons f planned fs rest hFirst _ ih =>
      refine .cons ?_ (ih (bound.append planned.operands))
      rw [Expr.MentionsOnly, planned.mentions_condition scope hFirst.1]
      exact hFirst.2

/-- The mentions in the query of a plan. -/
theorem mentions_statement (sourceLimit : UInt64) (clauses : List JoinItem × List Expr) :
    (plan.statement names d sourceLimit clauses).query.mentions [] =
      .bound (.table (names.tableRef plan.anchor leftName)) ::
        (joinMentions (leftScope names plan.anchor) clauses.1 ++
          itemMentions (plan.scope names clauses) (plan.items names) ++
          (exprMentions (plan.scope names clauses) clauses.2 ++
            exprMentions (plan.scope names clauses)
              (plan.filterConditions names plan.filters {}).1) ++
          exprMentions (plan.scope names clauses) (plan.groups names)) := by
  have hOrders (scope : Scope) : orderMentions scope plan.orders = [] := by
    rw [orderMentions_eq_flatMap, List.flatMap_eq_nil_iff]
    intro order hMem
    obtain ⟨key, -, hExpr⟩ := plan.mem_orders hMem
    rw [hExpr]
    rfl
  simp [statement, Query.mentions, fromScope, scope, leftScope, hOrders, exprMentions_eq_flatMap]

/-- Expressions are projected under the keys of their plan. -/
theorem map_name_items : (plan.items names).map Item.name = plan.keys.map some := by
  simp [items, keys, Function.comp_def]

/-- What is grouped by are the projected axes. -/
theorem groups_eq :
    plan.groups names = ((plan.items names).take plan.axes.length).map Item.expr := by
  rw [items, List.take_left' (by simp), groups, List.map_map]
  rfl

end Plan

end Crosstab
