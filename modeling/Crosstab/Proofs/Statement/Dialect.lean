import Crosstab.Proofs.Plan.Sound
import Crosstab.Proofs.Sql.Cast
import Crosstab.Proofs.Statement.Compile

/-!
Statements in the three dialects. A plan asks the same in each of them: the values, the columns and
the limit do not depend on the dialect, and of the query only the join that picks a single row does.
What is left are the ways in which a dialect writes casts.
-/

namespace Crosstab

open Crosstab.Sql

namespace PlannedJoin

variable (join : PlannedJoin) (names : Naming)

theorem clauses_duckdb : join.clauses names .duckdb = join.clauses names .postgres := by
  unfold clauses
  cases join.kind <;> rfl

/-- Only a join with a single matching row is written in another way. -/
theorem clauses_sqlite (h : join.kind ≠ .first) :
    join.clauses names .sqlite = join.clauses names .postgres := by
  unfold clauses
  cases hKind : join.kind with
  | first => exact absurd hKind h
  | _ => rfl

/-- A single row is picked by a sub-select in the join or by its row identity. -/
theorem clauses_of_first (h : join.kind = .first) :
    join.clauses names .postgres = .ok ([join.lateralPick names], []) ∧
      join.clauses names .sqlite = .ok ([join.rowPick names "rowid"], []) := by
  unfold clauses
  rw [h]
  exact ⟨rfl, rfl⟩

/-- The one pick reads a sub-select and the other a table. -/
theorem lateralPick_ne_rowPick (row : String) :
    join.lateralPick names ≠ join.rowPick names row := by
  intro hSame
  cases congrArg JoinItem.source hSame

end PlannedJoin

/-- What the statements of one plan in the three dialects have in common: `p` for Postgres, `k` for
DuckDB and `l` for SQLite. -/
structure Plan.AsksAlike (plan : Plan) (names : Naming) (p k l : Statement) : Prop where
  dialects : p.dialect = .postgres ∧ k.dialect = .duckdb ∧ l.dialect = .sqlite
  values : k.values = p.values ∧ l.values = p.values
  columns : k.columns = p.columns ∧ l.columns = p.columns
  limit : k.limit = p.limit ∧ l.limit = p.limit
  query : k.query = p.query
  unpicked : (∀ join, plan.join = some join → join.kind ≠ .first) → l.query = p.query
  /-- Where a single row is picked, the one joined item differs and nothing else. -/
  picked : ∀ join, plan.join = some join → join.kind = .first →
    p.query.joins = [join.lateralPick names] ∧
      l.query = { p.query with joins := [join.rowPick names "rowid"] } ∧
      join.lateralPick names ≠ join.rowPick names "rowid"
  length : k.tokens.length = p.tokens.length
  types : List.Forall₂ Token.SameButType p.tokens k.tokens

namespace Plan

variable (plan : Plan) (names : Naming)

theorem clauses_duckdb : plan.clauses names .duckdb = plan.clauses names .postgres := by
  unfold clauses
  cases plan.join with
  | none => rfl
  | some join => exact join.clauses_duckdb names

/-- The clauses for the join are the same unless it picks a single row. -/
theorem clauses_sqlite_of_postgres {own : List JoinItem × List Expr}
    (h : plan.clauses names .postgres = .ok own) : ∃ other, plan.clauses names .sqlite = .ok other ∧
      ((∀ join, plan.join = some join → join.kind ≠ .first) → other = own) ∧
      ∀ join, plan.join = some join → join.kind = .first →
        own = ([join.lateralPick names], []) ∧ other = ([join.rowPick names "rowid"], []) := by
  unfold clauses at h ⊢
  cases hJoin : plan.join with
  | none =>
      rw [hJoin] at h
      cases h
      exact ⟨_, rfl, fun _ => rfl, nofun⟩
  | some join =>
      rw [hJoin] at h
      by_cases hKind : join.kind = .first
      · obtain ⟨hLateral, hRow⟩ := join.clauses_of_first names hKind
        cases h.symm.trans hLateral
        refine ⟨_, hRow, fun hNone => absurd hKind (hNone join rfl), ?_⟩
        intro same hSame _
        cases hSame
        exact ⟨rfl, rfl⟩
      · refine ⟨own, (join.clauses_sqlite names hKind).trans h, fun _ => rfl, ?_⟩
        intro same hSame hFirst
        cases hSame
        exact absurd hFirst hKind

/-- The clauses of the join make the statement. -/
theorem compile_of_clauses {d : Dialect} {clauses : List JoinItem × List Expr}
    (h : plan.clauses names d = .ok clauses) (sourceLimit : UInt64) :
    plan.compile names d sourceLimit = .ok (plan.statement names d sourceLimit clauses) := by
  rw [compile_eq, h]
  rfl

/-- Statements ask alike if their clauses differ in nothing but how a single row is picked. -/
theorem asksAlike_statement (sourceLimit : UInt64) {clauses other : List JoinItem × List Expr}
    (hUnpicked : (∀ join, plan.join = some join → join.kind ≠ .first) → other = clauses)
    (hPicked : ∀ join, plan.join = some join → join.kind = .first →
      clauses = ([join.lateralPick names], []) ∧ other = ([join.rowPick names "rowid"], [])) :
    plan.AsksAlike names (plan.statement names .postgres sourceLimit clauses)
      (plan.statement names .duckdb sourceLimit clauses)
      (plan.statement names .sqlite sourceLimit other) := by
  have hTypes := Query.tokens_sameButType (plan.statement names .postgres sourceLimit clauses).query
  constructor
  case dialects => exact ⟨rfl, rfl, rfl⟩
  case values | columns | limit => exact ⟨rfl, rfl⟩
  case query => rfl
  case unpicked =>
    intro hNone
    rw [hUnpicked hNone]
    rfl
  case picked =>
    intro join hJoin hKind
    obtain ⟨rfl, rfl⟩ := hPicked join hJoin hKind
    exact ⟨rfl, rfl, join.lateralPick_ne_rowPick names "rowid"⟩
  case length => exact hTypes.length_eq.symm
  case types => exact hTypes

end Plan

/-- A plan has a statement in each dialect, and the three ask alike. Queries are written alike in
each dialect but for the casts: DuckDB calls types by other names, and SQLite writes the casts of a
query around their operands. What it writes is determined by these casts. -/
theorem asksAlike_compile (plan : Plan) (names : Naming) (sourceLimit : UInt64) :
    (∃ p k l, plan.compile names .postgres sourceLimit = .ok p ∧
      plan.compile names .duckdb sourceLimit = .ok k ∧
      plan.compile names .sqlite sourceLimit = .ok l ∧ plan.AsksAlike names p k l) ∧
    ∀ query : Query, Recast query.casts (query.tokens .postgres) (query.tokens .sqlite) ∧
      ∀ tokens, Recast query.casts (query.tokens .postgres) tokens →
        tokens = query.tokens .sqlite := by
  constructor
  · obtain ⟨clauses, hPostgres, -⟩ := plan.compile_eq_ok names .postgres sourceLimit
    have hDuckdb := (plan.clauses_duckdb names).trans hPostgres
    obtain ⟨other, hSqlite, hUnpicked, hPicked⟩ := plan.clauses_sqlite_of_postgres names hPostgres
    have hAlike := plan.asksAlike_statement names sourceLimit hUnpicked hPicked
    have hCompiles {d : Dialect} {clauses : List JoinItem × List Expr}
        (h : plan.clauses names d = .ok clauses) := plan.compile_of_clauses names h sourceLimit
    exact ⟨_, _, _, hCompiles hPostgres, hCompiles hDuckdb, hCompiles hSqlite, hAlike⟩
  · intro query
    constructor
    · exact query.tokens_recast
    · intro tokens hOther
      exact query.tokens_recast.unique hOther

/-- A day that is read from a text, and a test that is taken for a text. -/
def Sql.Query.daysOfTexts : Query where
  items := [⟨.cast (.cast (.ofTable "l" "soldAt") .text) .date, some "day"⟩]
  source := none
  joins := []
  conditions := [.cast (.compare .eq (.ofTable "l" "brand") (.param 1)) .text]
  groups := []
  orders := []
  limit := none

open Query in
/-- A date from a cast text, and a test that is cast: each cast keeps its operand. -/
theorem asksAlike_daysOfTexts : ∃ c plan, Catalog.load Registry.builtin.source = .ok c ∧
    Spec.refundsByReason.resolve c 10 = .ok plan ∧
    (∃ p k l, plan.compile {} .postgres 100 = .ok p ∧ plan.compile {} .duckdb 100 = .ok k ∧
      plan.compile {} .sqlite 100 = .ok l ∧ plan.AsksAlike {} p k l) ∧
    daysOfTexts.casts = [(.cast (.ofTable "l" "soldAt") .text, .date),
      (.ofTable "l" "soldAt", .text),
      (.compare .eq (.ofTable "l" "brand") (.param 1), .text)] ∧
    Recast daysOfTexts.casts (daysOfTexts.tokens .postgres) (daysOfTexts.tokens .sqlite) ∧
    daysOfTexts.sql .postgres =
      "SELECT\n  \"l\".\"soldAt\"::text::date AS \"day\"\nWHERE (\"l\".\"brand\" = $1)::text" ∧
    daysOfTexts.sql .sqlite = "SELECT\n  DATE(CAST(\"l\".\"soldAt\" AS TEXT)) AS \"day\"\n" ++
      "WHERE CAST(\"l\".\"brand\" = ?1 AS TEXT)" := by
  obtain ⟨c, plan, hLoad, hSpec⟩ : ∃ c plan, Catalog.load Registry.builtin.source = .ok c ∧
      Spec.refundsByReason.resolve c 10 = .ok plan := ⟨_, _, rfl, rfl⟩
  obtain ⟨hStatements, hQueries⟩ := asksAlike_compile plan {} 100
  exact ⟨c, plan, hLoad, hSpec, hStatements, rfl, (hQueries daysOfTexts).1, by decide +kernel,
    by decide +kernel⟩

end Crosstab
