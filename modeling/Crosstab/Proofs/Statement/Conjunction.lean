import Crosstab.Proofs.Sql.Nesting
import Crosstab.Proofs.Statement.Test

/-!
What the text of a statement demands of rows. The conditions of a statement are written side by
side, and nothing in them can be taken for the `AND` between two of them; so the clauses say just
what the plan does: the comparisons of the join, the probe for a match, and each filter by its own
condition.
-/

namespace Crosstab

open Crosstab.Sql

namespace PlannedFilter

theorem isAtomic_comparedAs (kind : ValueKind) (column : Expr) :
    (comparedAs kind column).isAtomic := by
  cases kind <;> rfl

theorem isAtomic_boundAs (kind : ValueKind) (param : Expr) : (boundAs kind param).isAtomic := by
  cases kind <;> rfl

/-- Whatever a filter tests is written as a test, also where its value does not suit its
operator. -/
theorem isTest_condition (f : PlannedFilter) {column : Expr} (h : column.isAtomic) (first : Nat) :
    (f.condition column first).isTest := by
  unfold condition
  split
  · exact h
  · exact h
  · rfl
  · rfl
  · simp [Expr.isTest, isAtomic_comparedAs, isAtomic_boundAs]
  · simp [Expr.isTest, isAtomic_comparedAs, isAtomic_boundAs]
  · rfl

end PlannedFilter

namespace Plan

variable (plan : Plan) (names : Naming)

/-- The conditions of filters, each with the number of its first placeholder. -/
theorem filterConditions_eq_mapIdx (filters : List PlannedFilter) (bound : Bindings) :
    (plan.filterConditions names filters bound).1 = filters.mapIdx fun i f =>
      f.condition (plan.columnExpr names f.column)
        (bound.next + ((filters.take i).flatMap PlannedFilter.operands).length) := by
  induction filters generalizing bound with
  | nil => rfl
  | cons f rest ih =>
      have hNext : (bound.append f.operands).next = bound.next + f.operands.length := by
        simp [Bindings.next, Bindings.append, Bindings.size]
        omega
      simp [filterConditions, ih, hNext, List.mapIdx_cons, Nat.add_assoc]

end Plan

namespace PlannedJoin

variable (join : PlannedJoin) (names : Naming)

/-- The comparison that a pair of fields stands for, with the right entity under a given name. -/
def comparison (name : String) (pair : FieldPair) : List Token :=
  [.name leftName, .dot, .name (names.column join.leftEntity pair.leftField), .space,
    .comparator pair.comparator, .space, .name name, .dot,
    .name (names.column join.rightEntity pair.rightField)]

/-- The conditions of a join are the comparisons of its pairs. -/
theorem tokens_conditions (hPairs : join.pairs ≠ []) (d : Dialect) (name : String) :
    (join.conditions names name).map (Expr.tokens d) =
      join.pairs.map (join.comparison names name) := by
  rw [conditions, if_neg (by simpa using hPairs), List.map_map]
  apply List.map_congr_left
  intro pair _
  simp [comparison, Expr.ofTable, Expr.tokens, qualifier]

/-- The conditions of a join are tests. -/
theorem isTest_conditions (name : String) : ∀ test ∈ join.conditions names name, test.isTest := by
  unfold conditions
  split
  · simp [Expr.isTest, Expr.isAtomic]
  · simp [Expr.isTest, Expr.isAtomic, Expr.ofTable]

/-- A sub-select for matching rows demands the comparisons of all pairs and nothing else. -/
theorem clauseConjuncts_matching (hPairs : join.pairs ≠ []) (d : Dialect) (items : List Item)
    (limit : Option UInt64) :
    clauseConjuncts .whereKeyword ((join.matching names items limit).tokens d) =
      [join.pairs.map (join.comparison names innerName)] := by
  have hSome : (join.conditions names innerName).isEmpty = false := by
    simp [conditions, hPairs]
  rw [Query.clauseConjuncts_where (join.isTest_conditions names innerName)]
  simp [matching, hSome, join.tokens_conditions names hPairs]

/-- How a join appears in the text of a statement, and the conditions of the statement itself that
it comes with. -/
inductive Appears (d : Dialect) (tokens : List Token) : List (List Token) → Prop
  | table (hKind : join.kind ∈ [JoinKind.inner, .left, .right])
      (hOn : clauseConjuncts .onKeyword tokens =
        [join.pairs.map (join.comparison names rightName)]) :
      Appears d tokens []
  | lateral {sub : List Token} (hKind : join.kind = .first)
      (hSource : clauseBodies .left tokens =
        [[.keyword .join, .space, .keyword .lateral, .space] ++ parenthesized sub ++
          naming (some rightName)])
      (hOn : clauseConjuncts .onKeyword tokens = [[[.keyword .true]]])
      (hSub : clauseConjuncts .whereKeyword sub =
        [join.pairs.map (join.comparison names innerName)]) :
      Appears d tokens []
  | row {row : String} {sub : List Token} (hKind : join.kind = .first)
      (hRow : d.rowIdentity? = some row)
      (hOn : clauseConjuncts .onKeyword tokens =
        [[[.name rightName, .dot, .name row, .space, .comparator .eq, .space] ++
          parenthesized sub]])
      (hSub : clauseConjuncts .whereKeyword sub =
        [join.pairs.map (join.comparison names innerName)]) :
      Appears d tokens []
  | probe {sub : List Token} (hKind : join.kind = .semi)
      (hOn : clauseConjuncts .onKeyword tokens = [])
      (hSub : clauseConjuncts .whereKeyword sub =
        [join.pairs.map (join.comparison names innerName)]) :
      Appears d tokens [[.keyword .existsKeyword, .space] ++ parenthesized sub]

/-- In every dialect, a join appears in the statements that it is a part of. -/
theorem exists_appears (hPairs : join.pairs ≠ []) (d : Dialect) :
    ∃ clauses, join.clauses names d = .ok clauses ∧ (∀ test ∈ clauses.2, test.isTest) ∧
      ∀ query : Query, query.joins = clauses.1 →
        join.Appears names d (query.tokens d) (clauses.2.map (Expr.tokens d)) := by
  have hSub := join.clauseConjuncts_matching names hPairs d
  rcases join.clauses_cases names d with ⟨hKind, type, h⟩ | ⟨hKind, h⟩ | ⟨hKind, row, hRow, h⟩ |
    ⟨hKind, h⟩
  · refine ⟨_, h, List.forall_mem_nil _, fun query hJoins => .table hKind ?_⟩
    have hSome : join.conditions names rightName ≠ [] := by simp [conditions, hPairs]
    rw [Query.clauseConjuncts_on
      (by simpa [hJoins, tableJoin] using join.isTest_conditions names _), hJoins]
    simp [tableJoin, hSome, join.tokens_conditions names hPairs]
  · refine ⟨_, h, List.forall_mem_nil _, fun query hJoins => .lateral hKind ?_ ?_
      (hSub [⟨.star none, none⟩] (some 1))⟩
    · have hLeft := query.clauseBodies_join d .left
      rw [hJoins] at hLeft
      simpa [lateralPick, JoinSource.tokens, JoinType.keyword] using hLeft
    · rw [Query.clauseConjuncts_on (by simp [hJoins, lateralPick]), hJoins]
      rfl
  · refine ⟨_, h, List.forall_mem_nil _, fun query hJoins => .row hKind hRow ?_
      (hSub [⟨.ofTable innerName row, none⟩] (some 1))⟩
    rw [Query.clauseConjuncts_on (by simp [hJoins, rowPick, tableJoin, Expr.isTest, Expr.isAtomic,
      Expr.ofTable]), hJoins]
    simp [rowPick, tableJoin, Expr.ofTable, Expr.tokens, qualifier]
  · refine ⟨_, h, by simp [probe, Expr.isTest], ?_⟩
    intro query hJoins
    have hOn := query.clauseConjuncts_on (d := d) (by simp [hJoins])
    rw [hJoins] at hOn
    simp only [List.map_singleton, probe, Expr.tokens]
    exact .probe hKind hOn (hSub [⟨.int 1, none⟩] none)

end PlannedJoin

namespace Plan

variable (plan : Plan) (names : Naming) (d : Dialect) (sourceLimit : UInt64)

/-- The conditions of the filters of a plan. Their placeholders count on from one filter to the
next. -/
def tests : List Expr :=
  plan.filters.mapIdx fun i f => f.condition (plan.columnExpr names f.column)
    (1 + ((plan.filters.take i).flatMap PlannedFilter.operands).length)

/-- The conditions of filters are tests. -/
theorem isTest_tests : ∀ test ∈ plan.tests names, test.isTest := by
  intro test hMem
  obtain ⟨i, hIndex, rfl⟩ := List.mem_mapIdx.mp hMem
  exact PlannedFilter.isTest_condition _ rfl _

/-- A statement asks for the matching row first, and then for the filters. -/
theorem conditions_statement (clauses : List JoinItem × List Expr) :
    (plan.statement names d sourceLimit clauses).query.conditions =
      clauses.2 ++ plan.tests names := by
  rw [statement, filterConditions_eq_mapIdx]
  rfl

/-- The conditions of a statement are those of its join and those of its filters. -/
theorem clauseConjuncts_where {clauses : List JoinItem × List Expr}
    (hProbes : ∀ test ∈ clauses.2, test.isTest) :
    clauseConjuncts .whereKeyword (plan.statement names d sourceLimit clauses).tokens =
      if (clauses.2 ++ plan.tests names).isEmpty then []
      else [(clauses.2 ++ plan.tests names).map (Expr.tokens d)] := by
  have hTests := List.forall_mem_append.mpr ⟨hProbes, plan.isTest_tests names⟩
  rw [← plan.conditions_statement names d sourceLimit] at hTests ⊢
  exact Query.clauseConjuncts_where hTests

/-- What the clauses of a plan show of its join, if it has one. -/
theorem shown_of_clauses {plan : Plan} {names : Naming} {d : Dialect}
    (hPairs : ∀ join, plan.join = some join → join.pairs ≠ []) {clauses : List JoinItem × List Expr}
    (h : plan.clauses names d = .ok clauses) :
    (∀ test ∈ clauses.2, test.isTest) ∧ (plan.join = none → clauses = ([], [])) ∧
      ∀ join, plan.join = some join → ∀ query : Query, query.joins = clauses.1 →
        join.Appears names d (query.tokens d) (clauses.2.map (Expr.tokens d)) := by
  unfold Plan.clauses at h
  cases hJoin : plan.join with
  | none =>
      rw [hJoin] at h
      cases h
      simp
  | some join =>
      rw [hJoin] at h
      obtain ⟨_, hEq, hTests, hAppears⟩ := join.exists_appears names (hPairs join hJoin) d
      cases h.symm.trans hEq
      have hOwn : ∀ other, some join = some other → ∀ query : Query, query.joins = clauses.1 →
          other.Appears names d (query.tokens d) (clauses.2.map (Expr.tokens d)) := by
        intro other hOther
        cases hOther
        exact hAppears
      exact ⟨hTests, nofun, hOwn⟩

end Plan

/-- The text of a statement says just what its plan demands. Its conditions, told apart at the `AND`
between them, are token by token the probe of the join if it has one, and then the condition of each
filter; without any of them there is no such clause. Wherever the join compares rows, it has one
comparison for each pair of fields and nothing else. -/
theorem conditions_conjoined (plan : Plan)
    (hPairs : ∀ join, plan.join = some join → join.pairs ≠ []) (names : Naming) (d : Dialect)
    (sourceLimit : UInt64) :
    ∃ s probes, plan.compile names d sourceLimit = .ok s ∧
      (plan.join = none → probes = [] ∧ clauseConjuncts .onKeyword s.tokens = []) ∧
      (∀ join, plan.join = some join → join.Appears names d s.tokens probes) ∧
      clauseConjuncts .whereKeyword s.tokens =
        if probes = [] ∧ plan.filters = [] then []
        else [probes ++ (plan.tests names).map (Expr.tokens d)] := by
  obtain ⟨clauses, hClauses, hCompile, -⟩ := plan.compile_eq_ok names d sourceLimit
  obtain ⟨hTests, hNone, hAppears⟩ := Plan.shown_of_clauses hPairs hClauses
  have hWithout : plan.join = none → clauses.2.map (Expr.tokens d) = [] ∧
      clauseConjuncts .onKeyword (plan.statement names d sourceLimit clauses).tokens = [] := by
    intro hJoin
    rw [hNone hJoin, Statement.tokens]
    exact ⟨rfl, Query.clauseConjuncts_on (List.forall_mem_nil _)⟩
  have hEmpty : (clauses.2 ++ plan.tests names).isEmpty ↔
      clauses.2.map (Expr.tokens d) = [] ∧ plan.filters = [] := by
    simp [Plan.tests]
  have hWhere : clauseConjuncts .whereKeyword (plan.statement names d sourceLimit clauses).tokens =
      if clauses.2.map (Expr.tokens d) = [] ∧ plan.filters = [] then []
      else [clauses.2.map (Expr.tokens d) ++ (plan.tests names).map (Expr.tokens d)] := by
    rw [plan.clauseConjuncts_where names d sourceLimit hTests, List.map_append]
    exact if_congr hEmpty rfl rfl
  exact ⟨_, _, hCompile, hWithout, fun join hSome => hAppears join hSome _ rfl, hWhere⟩

/-- The returns of some days, of articles that are in the inventory. -/
def Plan.returnsStocked : Plan where
  filters := [
    ⟨.ofDates "returns" "returnDate", .between, .range (.date "2024-01-01") (.date "2024-06-30")⟩]
  anchor := "returns"
  join := some ⟨"returns", "inventory", .semi, [⟨"sku", "sku", .eq⟩]⟩

/-- A `BETWEEN` is no border between conditions, and a sub-select keeps its own. -/
theorem conditions_conjoined_stocked : ∃ s sub, Plan.returnsStocked.compile {} .sqlite 100 = .ok s ∧
    clauseConjuncts .whereKeyword s.tokens =
      [[[.keyword .existsKeyword, .space] ++ parenthesized sub,
        [.function "DATE", .leftParen, .name "l", .dot, .name "return_date", .rightParen, .space,
          .keyword .between, .space, .function "DATE", .leftParen, .placeholder 1, .rightParen,
            .space,
          .keyword .and, .space, .function "DATE", .leftParen, .placeholder 2, .rightParen]]] ∧
    clauseConjuncts .whereKeyword sub =
      [[[.name "l", .dot, .name "sku", .space, .comparator .eq, .space, .name "r1", .dot,
        .name "sku"]]] := by
  have hPairs (join : PlannedJoin) (hJoin : Plan.returnsStocked.join = some join) :
      join.pairs ≠ [] := by
    cases hJoin
    decide
  obtain ⟨s, probes, hCompile, -, hJoin, hWhere⟩ := conditions_conjoined _ hPairs {} .sqlite 100
  cases hJoin _ rfl with
  | table hKind => exact absurd hKind (by decide)
  | lateral hKind => cases hKind
  | row hKind => cases hKind
  | probe _ _ hSub => exact ⟨s, _, hCompile, hWhere, hSub⟩

end Crosstab
