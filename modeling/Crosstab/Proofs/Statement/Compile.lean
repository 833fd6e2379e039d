import Crosstab.Proofs.Sql.Nodes
import Crosstab.Statement.Compile

/-!
What statements consist of. Compilation never fails, because every dialect has either lateral
sub-selects or a row identity, and all that it puts into a query is known form by form.
-/

namespace Crosstab

open Crosstab.Sql

namespace Sql.Expr

/-- Whether an expression is of one of the forms that joins are made of. None of them holds a text,
a bound value or a call. -/
def IsBare : Expr → Prop
  | .column _ _ | .int _ | .compare _ _ _ | .nonempty _ | .scalar _ | .star _ => True
  | _ => False

end Sql.Expr

namespace PlannedJoin

variable (join : PlannedJoin) (names : Naming)

/-- The conditions of a join bind no values. -/
theorem bare_conditions (name : String) :
    ∀ part ∈ exprNodes (join.conditions names name), part.IsBare := by
  unfold conditions
  split
  · simp [exprNodes, Expr.nodes, Expr.IsBare]
  · rw [exprNodes_eq_flatMap, List.flatMap_map]
    intro part hMem
    obtain ⟨pair, -, hPart⟩ := List.mem_flatMap.mp hMem
    simp only [Expr.nodes, Expr.ofTable, List.mem_cons, List.mem_append, List.not_mem_nil, or_false]
      at hPart
    rcases hPart with rfl | rfl | rfl <;> trivial

/-- A sub-select over matching rows binds no values. -/
theorem bare_matching {items : List Item} (h : ∀ part ∈ itemNodes items, part.IsBare)
    (limit : Option UInt64) : ∀ part ∈ (join.matching names items limit).nodes, part.IsBare := by
  have hConditions := join.bare_conditions names innerName
  simpa [matching, Query.empty, Query.nodes, joinNodes, exprNodes, orderNodes, or_imp, forall_and]
    using ⟨h, hConditions⟩

/-- One matching row, picked by a sub-select in the join. -/
def lateralPick : JoinItem :=
  ⟨.left, .lateral (join.matching names [⟨.star none, none⟩] (some 1)) rightName, []⟩

/-- One matching row, picked by its row identity. -/
def rowPick (row : String) : JoinItem :=
  join.tableJoin names .left
    [.compare .eq (.ofTable rightName row)
      (.scalar (join.matching names [⟨.ofTable innerName row, none⟩] (some 1)))]

/-- The condition that there is a matching row. -/
def probe : Expr := .nonempty (join.matching names [⟨.int 1, none⟩] none)

/-- The ways in which a join takes part in a query. None of them fails: a dialect without lateral
sub-selects has a row identity. -/
theorem clauses_cases (d : Dialect) :
    (join.kind ∈ [JoinKind.inner, .left, .right] ∧ ∃ type, join.clauses names d =
        .ok ([join.tableJoin names type (join.conditions names rightName)], [])) ∨
      (join.kind = .first ∧ join.clauses names d = .ok ([join.lateralPick names], [])) ∨
      (join.kind = .first ∧ ∃ row, d.rowIdentity? = some row ∧
        join.clauses names d = .ok ([join.rowPick names row], [])) ∨
      (join.kind = .semi ∧ join.clauses names d = .ok ([], [join.probe names])) := by
  unfold clauses
  cases join.kind with
  | inner => exact .inl ⟨by decide, _, rfl⟩
  | left => exact .inl ⟨by decide, _, rfl⟩
  | right => exact .inl ⟨by decide, _, rfl⟩
  | first =>
      cases d with
      | postgres => exact .inr (.inl ⟨rfl, rfl⟩)
      | duckdb => exact .inr (.inl ⟨rfl, rfl⟩)
      | sqlite => exact .inr (.inr (.inl ⟨rfl, _, rfl, rfl⟩))
  | semi => exact .inr (.inr (.inr ⟨rfl, rfl⟩))

/-- Every join has clauses in every dialect, and they consist of columns and comparisons. -/
theorem clauses_eq_ok (d : Dialect) : ∃ clauses, join.clauses names d = .ok clauses ∧
    (∀ part ∈ joinNodes clauses.1, part.IsBare) ∧ ∀ part ∈ exprNodes clauses.2, part.IsBare := by
  rcases join.clauses_cases names d with ⟨-, type, h⟩ | ⟨-, h⟩ | ⟨-, row, -, h⟩ | ⟨-, h⟩
  · refine ⟨_, h, ?_, by simp [exprNodes]⟩
    have hConditions := join.bare_conditions names rightName
    simpa [joinNodes, tableJoin, JoinItem.nodes, JoinSource.nodes] using hConditions
  · refine ⟨_, h, ?_, by simp [exprNodes]⟩
    have hStar : ∀ part ∈ itemNodes [⟨.star none, none⟩], part.IsBare := by
      simp [itemNodes, Expr.nodes, Expr.IsBare]
    have hPick := join.bare_matching names hStar (some 1)
    simpa [joinNodes, lateralPick, JoinItem.nodes, JoinSource.nodes, exprNodes] using hPick
  · refine ⟨_, h, ?_, by simp [exprNodes]⟩
    have hRow : ∀ part ∈ itemNodes [⟨.ofTable innerName row, none⟩], part.IsBare := by
      simp [itemNodes, Expr.nodes, Expr.ofTable, Expr.IsBare]
    have hPick := join.bare_matching names hRow (some 1)
    simpa [joinNodes, rowPick, tableJoin, JoinItem.nodes, JoinSource.nodes, exprNodes, Expr.nodes,
      Expr.ofTable, Expr.IsBare] using hPick
  · refine ⟨_, h, by simp [joinNodes], ?_⟩
    have hOne : ∀ part ∈ itemNodes [⟨.int 1, none⟩], part.IsBare := by
      simp [itemNodes, Expr.nodes, Expr.IsBare]
    have hProbe := join.bare_matching names hOne none
    simpa [probe, exprNodes, Expr.nodes, Expr.IsBare] using hProbe

end PlannedJoin

namespace Plan

variable (plan : Plan) (names : Naming) (d : Dialect) (sourceLimit : UInt64)

/-- Rows are ordered by keys that the plan sorts by or reports. -/
theorem mem_orders {order : OrderItem} (h : order ∈ plan.orders) :
    ∃ key ∈ plan.sorts.map SortKey.key ++ plan.measures.map PlannedMeasure.key,
      order.expr = .ofName key := by
  unfold orders at h
  split at h
  · cases hMeasures : plan.measures with
    | nil => simp [hMeasures] at h
    | cons m rest =>
        obtain rfl : order = ⟨.ofName m.key, some .desc⟩ := by simpa [hMeasures] using h
        exact ⟨m.key, by simp, rfl⟩
  · obtain ⟨s, hSort, rfl⟩ := List.mem_map.mp h
    exact ⟨s.key, List.mem_append_left _ (List.mem_map_of_mem hSort), rfl⟩

/-- How the join of a plan takes part in its query. -/
def clauses : Except CompileFault (List JoinItem × List Expr) :=
  match plan.join with
  | some join => join.clauses names d
  | none => .ok ([], [])

/-- The statement of a plan with given clauses for its join. -/
def statement (clauses : List JoinItem × List Expr) : Statement where
  dialect := d
  query := {
    items := plan.items names
    source := some (names.tableRef plan.anchor leftName)
    joins := clauses.1
    conditions := clauses.2 ++ (plan.filterConditions names plan.filters {}).1
    groups := plan.groups names
    orders := plan.orders
    limit := some (plan.rowLimit sourceLimit) }
  values := (plan.filterConditions names plan.filters {}).2.values
  columns := plan.outputColumns
  limit := plan.rowLimit sourceLimit

/-- A plan has a statement just if its join has clauses. -/
theorem compile_eq : plan.compile names d sourceLimit =
    (plan.clauses names d).map (plan.statement names d sourceLimit) := by
  unfold compile clauses
  cases plan.join with
  | none => rfl
  | some join => cases join.clauses names d <;> rfl

/-- A plan has a statement in every dialect, whatever it joins and tests. -/
theorem compile_eq_ok : ∃ clauses, plan.clauses names d = .ok clauses ∧
    plan.compile names d sourceLimit = .ok (plan.statement names d sourceLimit clauses) ∧
    (∀ part ∈ joinNodes clauses.1, part.IsBare) ∧ ∀ part ∈ exprNodes clauses.2, part.IsBare := by
  have hClauses : ∃ clauses, plan.clauses names d = .ok clauses ∧
      (∀ part ∈ joinNodes clauses.1, part.IsBare) ∧
        ∀ part ∈ exprNodes clauses.2, part.IsBare := by
    unfold clauses
    cases plan.join with
    | none => exact ⟨_, rfl, by simp [joinNodes], by simp [exprNodes]⟩
    | some join => exact join.clauses_eq_ok names d
  obtain ⟨clauses, hEq, hBare⟩ := hClauses
  refine ⟨clauses, hEq, ?_, hBare⟩
  rw [compile_eq, hEq]
  rfl

end Plan

end Crosstab
