import Crosstab.Proofs.Engine.Call
import Crosstab.Proofs.Report.Rectangle
import Crosstab.Proofs.Statement.Mentions

/-!
Reports on plans without column axes. Rows are keyed lists, so a column that is missing, repeated or
out of place would drop a value or read the wrong one as a number. None can be: the keys of a plan
differ, and they are projected in the order in which the statement describes its columns.
-/

namespace Crosstab

open Crosstab.Sql

variable {σ : Type}

/-- A row with values under some keys, those under the measures as numbers wherever they denote
any. -/
def shownRow (front measures : List String) (values : List Json) : Row :=
  front.zip (values.take front.length) ++
    measures.zip ((values.drop front.length).map Json.normalizeNumber)

/-- A report shows rows one to one, with what the store replied under the axes and the numbers that
it replied under the measures. -/
structure Report.Shows (report : Report) (spec : Spec) (rows : List (List Json)) : Prop where
  columns : report.columns.map ReportColumn.key = spec.keys
  rectangular : report.IsRectangular
  rowCount : report.rowCount = rows.length
  rows : report.rows =
    rows.map (shownRow (spec.dimensions.map Dimension.key) (spec.measures.map Measure.key))

section Keyed

variable {front measures : List String}

/-- Values that fit the keys are shown under all of them. -/
theorem map_fst_shownRow {values : List Json}
    (hLength : values.length = (front ++ measures).length) :
    (shownRow front measures values).map Prod.fst = front ++ measures := by
  rw [List.length_append] at hLength
  rw [shownRow, List.map_append, List.map_fst_zip, List.map_fst_zip]
  · rw [List.length_map, List.length_drop]
    omega
  · rw [List.length_take]
    omega

/-- What becomes of a row that fits. -/
theorem keyRow_of_length_eq {columns : List String} {values : List Json}
    (hLength : values.length = columns.length) :
    keyRow measures columns values = .ok (Keyed.ofPairs ((columns.zip values).map fun pair =>
      (pair.1, if measures.contains pair.1 then pair.2.normalizeNumber else pair.2))) := by
  rw [keyRow, if_pos hLength]

/-- Columns that differ keep their values, those in front as they are and the measures as
numbers. -/
theorem keyRow_append (h : (front ++ measures).Nodup) {values : List Json}
    (hLength : values.length = (front ++ measures).length) :
    keyRow measures (front ++ measures) values = .ok (shownRow front measures values) := by
  have hApart := (List.nodup_append'.mp h).2.2
  have hPairs : (front ++ measures).zip values =
      front.zip (values.take front.length) ++ measures.zip (values.drop front.length) := by
    have hFront : front.length = (values.take front.length).length := by
      rw [List.length_take, hLength, List.length_append]
      omega
    rw [← List.zip_append hFront, List.take_append_drop]
  have hShown : ((front ++ measures).zip values).map (fun pair =>
      (pair.1, if measures.contains pair.1 then pair.2.normalizeNumber else pair.2)) =
        shownRow front measures values := by
    rw [hPairs, List.map_append, shownRow, List.zip_map_right]
    congr 1
    · refine (List.map_congr_left fun pair hMem => ?_).trans (List.map_id _)
      have hOther : pair.1 ∉ measures := fun hMeasure => hApart (List.of_mem_zip hMem).1 hMeasure
      simp [hOther]
    · apply List.map_congr_left
      intro pair hMem
      simp [(List.of_mem_zip hMem).1, Prod.map]
  rw [keyRow_of_length_eq hLength, hShown, Keyed.ofPairs_of_nodup]
  rw [map_fst_shownRow hLength]
  exact h

/-- Rows that fit columns that differ are all put under them. -/
theorem RowSet.keyed_append (h : (front ++ measures).Nodup) {rows : List (List Json)}
    (hEven : ∀ row ∈ rows, row.length = (front ++ measures).length) :
    keyed measures ⟨front ++ measures, rows⟩ = .ok (rows.map (shownRow front measures)) := by
  refine mapM_eq_ok.mpr (List.forall₂_map_right_iff.mpr (List.forall₂_same.mpr fun row hMem => ?_))
  exact keyRow_append h (hEven row hMem)

end Keyed

namespace Plan

variable {plan : Plan} {names : Naming} {d : Dialect} {sourceLimit : UInt64}
  {clauses : List JoinItem × List Expr}

theorem measureKeys_statement : (plan.statement names d sourceLimit clauses).measureKeys =
    plan.measures.map PlannedMeasure.key := by
  simp [statement, Statement.measureKeys, outputColumns, List.filter_map, Function.comp_def]

/-- The columns of a statement bear the keys of its plan. -/
theorem map_key_reportColumns :
    (plan.statement names d sourceLimit clauses).reportColumns.map ReportColumn.key =
      plan.keys := by
  simp [statement, Statement.reportColumns, outputColumns, keys, Function.comp_def]

/-- The keys of a flat plan are those of its rows and of its measures. -/
theorem keys_of_flat (h : plan.columnDimensions = []) :
    plan.keys = plan.dimensions.map PlannedAxis.key ++ plan.measures.map PlannedMeasure.key := by
  rw [keys, axes, h, List.append_nil]

/-- Without column axes rows are reported as they are. -/
theorem report?_of_flat (h : plan.columnDimensions = []) (s : Statement) (rows : List Row)
    (elapsedMillis cap : Nat) :
    plan.report? s rows elapsedMillis cap = some (plan.flatReport s rows elapsedMillis) := by
  have hFlat : (plan.isPivot && !rows.isEmpty) = false := by simp [isPivot, h]
  simp [report?, hFlat]

end Plan

/-- A flat plan shows the rows that fit its keys. -/
theorem Spec.ResolvesTo.shows_report {spec : Spec} {c : Catalog} {maxLimit : UInt64} {plan : Plan}
    (h : spec.ResolvesTo c maxLimit plan) (hFlat : plan.columnDimensions = [])
    {rows : List (List Json)} (hEven : ∀ row ∈ rows, row.length = plan.keys.length)
    (names : Naming) (d : Dialect) (sourceLimit : UInt64) (clauses : List JoinItem × List Expr)
    (elapsedMillis : Nat) :
    (plan.flatReport (plan.statement names d sourceLimit clauses)
      (rows.map (shownRow (plan.dimensions.map PlannedAxis.key)
        (plan.measures.map PlannedMeasure.key))) elapsedMillis).Shows spec rows := by
  have hKeys : (plan.flatReport (plan.statement names d sourceLimit clauses)
      (rows.map (shownRow (plan.dimensions.map PlannedAxis.key)
        (plan.measures.map PlannedMeasure.key))) elapsedMillis).columns.map ReportColumn.key =
      plan.keys := Plan.map_key_reportColumns
  constructor
  case columns => rw [hKeys, h.keys_eq]
  case rectangular =>
    refine ⟨hKeys ▸ h.nodup_keys, ?_⟩
    intro row hMem
    obtain ⟨values, hValues, rfl⟩ := List.mem_map.mp hMem
    have hLength := hEven values hValues
    rw [Plan.keys_of_flat hFlat] at hLength
    rw [hKeys, Plan.keys_of_flat hFlat, map_fst_shownRow hLength]
  case rowCount => exact List.length_map _
  case rows => rw [Plan.flatReport, h.dimensionKeys, h.measureKeys]

namespace Engine

variable {engine : Engine} {store : Store σ} {spec : Spec} {c : Catalog}
    {plan : Plan} {s : Statement}

/-- A specification whose plan and statement are known has been prepared. -/
theorem prepare_eq_ok {d : Dialect} (hLoad : Catalog.load engine.source = .ok c)
    (hSpec : spec.resolve c engine.limits.maxLimit = .ok plan)
    (hCompile : plan.compile engine.names d engine.limits.sourceLimit = .ok s) :
    engine.prepare d spec = .ok (plan, s) := by
  simp only [prepare, catalog, bind_eq_ok, mapError_eq_ok]
  exact ⟨c, hLoad, plan, hSpec, s, hCompile, rfl⟩

/-- What a call is answered whose statement the store has run. -/
theorem execute_eq {state : σ} {reply : Reply}
    (hPrepare : engine.prepare store.dialect spec = .ok (plan, s))
    (hReply : (store.fetch s.sql s.values state).1 = .ok reply) :
    (engine.execute store spec state).1 =
      ((reply.set.keyed s.measureKeys).mapError fun fault => .execute (.shape fault)).map
        fun rows => plan.report? s rows reply.elapsedMillis engine.limits.valueCap := by
  rw [execute_of_prepared hPrepare, hReply, Statement.rowsOf_ok]
  cases reply.set.keyed s.measureKeys <;> rfl

end Engine

/-- A plan without column axes has a statement, and the report on a reply to it shows the reply's
rows one to one if each of them fits the columns. One that does not fit fails the call, wherever it
stands. -/
theorem shows_execute {engine : Engine} {store : Store σ} {spec : Spec} {c : Catalog} {plan : Plan}
    (hLoad : Catalog.load engine.source = .ok c)
    (hSpec : spec.resolve c engine.limits.maxLimit = .ok plan)
    (hFlat : spec.columnDimensions = []) :
    ∃ s, plan.compile engine.names store.dialect engine.limits.sourceLimit = .ok s ∧
      ∀ state reply, (store.fetch s.sql s.values state).1 = .ok reply →
        reply.set.columns.map some = s.query.items.map Item.name →
        ((∀ row ∈ reply.set.rows, row.length = reply.set.columns.length) →
          ∃ report, (engine.execute store spec state).1 = .ok (some report) ∧
            report.Shows spec reply.set.rows) ∧
        ((∃ row ∈ reply.set.rows, row.length ≠ reply.set.columns.length) →
          ∃ row ∈ reply.set.rows, row.length ≠ reply.set.columns.length ∧
            (engine.execute store spec state).1 =
              .error (.execute (.shape ⟨reply.set.columns.length, row.length⟩))) := by
  obtain ⟨clauses, -, hCompile, -⟩ :=
    plan.compile_eq_ok engine.names store.dialect engine.limits.sourceLimit
  have hPlan := Spec.resolve_ok hSpec
  have hNone : plan.columnDimensions = [] :=
    List.forall₂_nil_left_iff.mp (hFlat ▸ hPlan.columnDimensions)
  refine ⟨_, hCompile, ?_⟩
  intro state reply hReply hNames
  have hExecute := Engine.execute_eq (Engine.prepare_eq_ok hLoad hSpec hCompile) hReply
  rw [Plan.measureKeys_statement] at hExecute
  have hColumns : reply.set.columns = plan.keys :=
    List.map_injective_iff.mpr (Option.some_injective _) (hNames.trans plan.map_name_items)
  constructor
  · intro hEven
    rw [hColumns] at hEven
    have hKeyed := RowSet.keyed_append (Plan.keys_of_flat hNone ▸ hPlan.nodup_keys)
      (Plan.keys_of_flat hNone ▸ hEven)
    have hSet : reply.set = ⟨plan.dimensions.map PlannedAxis.key ++
        plan.measures.map PlannedMeasure.key, reply.set.rows⟩ := by
      rw [← Plan.keys_of_flat hNone, ← hColumns]
    rw [← hSet] at hKeyed
    rw [hKeyed] at hExecute
    refine ⟨_, hExecute.trans (congrArg Except.ok (Plan.report?_of_flat hNone _ _ _ _)), ?_⟩
    exact hPlan.shows_report hNone hEven _ _ _ _ _
  · intro hRagged
    obtain ⟨row, hMem, hOther, hKeyed⟩ :=
      reply.set.exists_keyed_eq_error (plan.measures.map PlannedMeasure.key) hRagged
    refine ⟨row, hMem, hOther, ?_⟩
    rw [hExecute, hKeyed]
    rfl

/-- A store whose second reply has a row that lacks a value. -/
def Store.fraying : Store Nat where
  dialect := .sqlite
  fetch _ _ count := (.ok { set := ⟨["reason", "refund"],
    [.text "LATE", .text "12"] :: if count = 0 then [[.null, .bool true]] else [[.text "LOST"]]⟩ },
    count + 1)

/-- Even rows are shown cell by cell, and a short row behind them is refused. -/
theorem shows_fraying :
    (∃ report, (Engine.builtin.execute .fraying Spec.refundsByReason 0).1 = .ok (some report) ∧
      report.rows = [[("reason", .text "LATE"), ("refund", .int 12)],
        [("reason", .null), ("refund", .bool true)]]) ∧
    (Engine.builtin.execute .fraying Spec.refundsByReason 1).1 =
      .error (.execute (.shape ⟨2, 1⟩)) := by
  obtain ⟨s, hCompile, hReplies⟩ :=
    @shows_execute Nat Engine.builtin Store.fraying Spec.refundsByReason _ _ rfl rfl rfl
  cases hCompile
  constructor
  · obtain ⟨report, hReport, hShows⟩ := (hReplies 0 _ rfl rfl).1 (by decide)
    exact ⟨report, hReport, hShows.rows⟩
  · obtain ⟨row, hMem, hOther, hFault⟩ := (hReplies 1 _ rfl rfl).2 (by decide)
    obtain rfl : row = [.text "LOST"] := by
      rcases List.mem_cons.mp hMem with rfl | hLast
      · exact absurd rfl hOther
      · exact List.mem_singleton.mp hLast
    exact hFault

end Crosstab
