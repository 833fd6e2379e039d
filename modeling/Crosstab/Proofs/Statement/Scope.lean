import Crosstab.Proofs.Catalog.Load
import Crosstab.Proofs.Plan.Resolve
import Crosstab.Proofs.Plan.Value
import Crosstab.Proofs.Statement.Mentions

/-!
Statements are well scoped. A plan looks for the anchor's columns under the left name and for all
others under the right one. That is correct because of what accepted specifications have passed:
columns of a second entity occur only where that entity is on the right side of a join that projects
both sides.
-/

namespace Crosstab

open Crosstab.Sql

/-- The query of a plan is well scoped with respect to its specification: the left name is bound
once, and so is the right one just if the join projects both sides; every use of a name is in its
scope, and there the name stands for the entity that the specification named. -/
structure WellScoped (spec : Spec) (c : Catalog) (plan : Plan) (names : Naming) (d : Dialect)
    (query : Query) : Prop where
  /-- The join is the one that the specification asks for. -/
  join : ∀ join, plan.join = some join →
    ∃ given, spec.relationship = some given ∧ c.Realizes given plan.anchor join
  source : query.source = some (names.tableRef plan.anchor leftName)
  left : (boundNames (query.mentions [])).count leftName = 1
  /-- A join that projects both sides binds the right name. -/
  right : ∀ join, plan.join = some join → join.kind.projectsBoth →
    (∃ item, query.joins = [item] ∧ item.source.binder = rightName ∧
      item.source.Holds names join.rightEntity) ∧
    (boundNames (query.mentions [])).count rightName = 1
  /-- Nothing else binds it. -/
  unjoined : (∀ join, plan.join = some join → join.kind = .semi) →
    query.joins = [] ∧ rightName ∉ boundNames (query.mentions [])
  /-- The inner name is used directly inside the sub-select that binds it. -/
  inner : innerName ∉ (query.scope []).map JoinSource.binder ∧ ∀ scope column,
    .used scope innerName column ∈ query.mentions [] → ∃ join outer, plan.join = some join ∧
      scope = .table (names.tableRef join.rightEntity innerName) :: outer
  mentions : ∀ m ∈ query.mentions [], (∃ source, m = .bound source) ∨
    (∃ column ∈ spec.columns, m.IsField names column.entity column.field) ∨
    ∃ join, plan.join = some join ∧ join.Mentions names d m
  items : List.Forall₂ (fun column item => item.expr.MentionsOnly names (query.scope []) column)
    (spec.axes.map Dimension.column ++ spec.measures.map Measure.column) query.items
  tests : ∃ probes tests, query.conditions = probes ++ tests ∧
    List.Forall₂ (fun f test => test.MentionsOnly names (query.scope []) f.column)
      spec.filters tests
  groups : query.groups = (query.items.take spec.axes.length).map Item.expr
  orders : ∀ order ∈ query.orders, ∃ item ∈ query.items, ∃ key, item.name = some key ∧
    order.expr = .ofName key

/-- A resolved column is the one that was named. -/
theorem Catalog.OwnsColumns.of_resolveColumn {c : Catalog} (h : c.OwnsColumns)
    {column entry : Column} (hColumn : c.resolveColumn column = .ok entry) :
    entry.entity = column.entity ∧ entry.field = column.field :=
  h.of_column? (Catalog.resolveColumn_eq_ok.mp hColumn).2

/-- Only a semi join shows one side. -/
theorem JoinKind.eq_semi {kind : JoinKind} (h : ¬kind.projectsBoth) : kind = .semi := by
  simpa [JoinKind.projectsBoth] using h

/-- Every plan has clauses for its join, and names in them are in scope. -/
theorem Plan.exists_scopedClauses {plan : Plan}
    (hAnchor : ∀ join, plan.join = some join → join.leftEntity = plan.anchor) (names : Naming)
    (d : Dialect) : ∃ clauses, plan.clauses names d = .ok clauses ∧
      ScopedClauses names d plan.anchor plan.join clauses := by
  unfold clauses
  cases hJoin : plan.join with
  | none =>
      have hNone : clauseMentions (leftScope names plan.anchor) ([], []) = [] := rfl
      refine ⟨_, rfl, ?_⟩
      constructor <;> simp [hNone, boundNames]
  | some join =>
      rw [← hAnchor join hJoin]
      exact join.exists_scoped names d

namespace ScopedClauses

variable {plan : Plan} {names : Naming} {d : Dialect} {clauses : List JoinItem × List Expr}
  (h : ScopedClauses names d plan.anchor plan.join clauses)

include h

/-- The right side is in scope or there is nothing but the left one. -/
theorem scope_cases :
    ((∀ join, plan.join = some join → join.kind = .semi) ∧
      plan.scope names clauses = leftScope names plan.anchor) ∨
    ∃ join, ∃ item : JoinItem, plan.join = some join ∧
      plan.scope names clauses = item.source :: leftScope names plan.anchor ∧
      item.source.binder = rightName ∧ item.source.Holds names join.rightEntity := by
  by_cases hBoth : ∃ join, plan.join = some join ∧ join.kind.projectsBoth
  · obtain ⟨join, hJoin, hKind⟩ := hBoth
    obtain ⟨item, hItem, hSource⟩ := h.projected join hJoin hKind
    exact .inr ⟨join, item, hJoin, by rw [Plan.scope, hItem]; rfl, hSource⟩
  · have hSemi : ∀ join, plan.join = some join → join.kind = .semi := fun join hJoin =>
      JoinKind.eq_semi fun hKind => hBoth ⟨join, hJoin, hKind⟩
    exact .inl ⟨hSemi, by rw [Plan.scope, h.unjoined hSemi]; rfl⟩

/-- An entity that is the anchor or is joined to it is found under the name that a plan uses for
it. -/
theorem standsFor {entity : String} (hEntity : entity ≠ plan.anchor → ∃ join,
    plan.join = some join ∧ join.kind.projectsBoth ∧ join.rightEntity = entity) :
    (plan.scope names clauses).StandsFor names
      (if entity = plan.anchor then leftName else rightName) entity := by
  have hLeft : (leftScope names plan.anchor).StandsFor names leftName plan.anchor :=
    PlannedJoin.leftScope_standsFor plan.anchor
  rcases h.scope_cases with ⟨hSemi, hScope⟩ | ⟨join, item, hJoin, hScope, hBinder, hHolds⟩
  · rw [hScope]
    by_cases hAnchor : entity = plan.anchor
    · simpa [hAnchor] using hLeft
    · obtain ⟨join, hJoin, hBoth, -⟩ := hEntity hAnchor
      simp [hSemi join hJoin, JoinKind.projectsBoth] at hBoth
  · rw [hScope]
    by_cases hAnchor : entity = plan.anchor
    · rw [if_pos hAnchor, hAnchor]
      exact hLeft.behind (by rw [hBinder]; decide)
    · obtain ⟨other, hOther, -, rfl⟩ := hEntity hAnchor
      obtain rfl : join = other := Option.some.inj (hJoin.symm.trans hOther)
      rw [if_neg hAnchor, ← hBinder]
      exact Scope.standsFor_cons item.source hHolds _

/-- The name inside sub-selects is not in scope outside of them. -/
theorem innerName_notMem : innerName ∉ (plan.scope names clauses).map JoinSource.binder := by
  have hLeft : (leftScope names plan.anchor).map JoinSource.binder = [leftName] := rfl
  rcases h.scope_cases with ⟨-, hScope⟩ | ⟨join, item, -, hScope, hBinder, -⟩
  · rw [hScope, hLeft]
    decide
  · rw [hScope, List.map_cons, hBinder, hLeft]
    decide

end ScopedClauses

namespace Spec.ResolvesTo

variable {spec : Spec} {c : Catalog} {maxLimit : UInt64} {plan : Plan} {names : Naming}
    {d : Dialect}
  {clauses : List JoinItem × List Expr} (hPlan : spec.ResolvesTo c maxLimit plan)

include hPlan

variable (hOwns : c.OwnsColumns) (hClauses : ScopedClauses names d plan.anchor plan.join clauses)

include hOwns hClauses

/-- Every column of the specification is in scope where the plan looks for it. -/
theorem mentionsOnly_column {column entry : Column} (hMem : column ∈ spec.columns)
    (hColumn : c.resolveColumn column = .ok entry) :
    (plan.columnExpr names entry).MentionsOnly names (plan.scope names clauses) column := by
  obtain ⟨warnings, hCombined, -⟩ := hPlan.combined
  obtain ⟨-, -, hOther⟩ := Catalog.resolveEntities_ok hCombined
  obtain ⟨hEntity, hField⟩ := hOwns.of_resolveColumn hColumn
  exact Plan.mentionsOnly_columnExpr hEntity hField
    (hClauses.standsFor (hOther column.entity (mem_referencedEntities hMem)))

/-- Each projected expression mentions the column that was asked for. -/
theorem mentionsOnly_items : List.Forall₂
    (fun column item => item.expr.MentionsOnly names (plan.scope names clauses) column)
    (spec.axes.map Dimension.column ++ spec.measures.map Measure.column) (plan.items names) := by
  have hAxes := (List.forall₂_and_left spec.axes plan.axes).mpr ⟨fun _ hMem => hMem, hPlan.axes⟩
  have hMeasures := (List.forall₂_and_left spec.measures plan.measures).mpr
    ⟨fun _ hMem => hMem, hPlan.measures⟩
  refine List.rel_append ?_ ?_
  · refine forall₂_map (hAxes.imp ?_)
    rintro axis planned ⟨hMem, hAxis⟩
    have hColumn : axis.column ∈ spec.columns := by
      simpa [columns] using .inl ⟨axis, hMem, rfl⟩
    rw [Expr.MentionsOnly, mentions_groupLabel]
    exact hPlan.mentionsOnly_column hOwns hClauses hColumn (Catalog.resolveAxis_eq_ok.mp hAxis).2
  · refine forall₂_map (hMeasures.imp ?_)
    rintro m planned ⟨hMem, hMeasure⟩
    have hColumn : m.column ∈ spec.columns := by
      simpa [columns] using .inr (.inl ⟨m, hMem, rfl⟩)
    rw [Expr.MentionsOnly, mentions_aggregate]
    exact hPlan.mentionsOnly_column hOwns hClauses hColumn
      (Catalog.resolveMeasure_eq_ok.mp hMeasure).2.2.1

/-- Each condition of a filter mentions the column of that filter. -/
theorem mentionsOnly_tests : List.Forall₂
    (fun f test => test.MentionsOnly names (plan.scope names clauses) f.column)
    spec.filters (plan.filterConditions names plan.filters {}).1 := by
  have hFilters := (List.forall₂_and_left spec.filters plan.filters).mpr
    ⟨fun _ hMem => hMem, hPlan.filters⟩
  refine Plan.mentionsOnly_filterConditions (hFilters.imp ?_) {}
  rintro f planned ⟨hMem, hFilter⟩
  have hColumn : f.column ∈ spec.columns := by
    simpa [columns] using .inr (.inr ⟨f, hMem, rfl⟩)
  obtain ⟨hOperator, hResolved, hRead⟩ := Catalog.resolveFilter_eq_ok.mp hFilter
  refine ⟨fun hAbsent => ?_, hPlan.mentionsOnly_column hOwns hClauses hColumn hResolved⟩
  rw [hOperator]
  exact FilterValue.isNullary_of_absent (hAbsent ▸ hRead)

theorem mentionsOnly_itemExprs : ∀ e ∈ (plan.items names).map Item.expr, ∃ column ∈ spec.columns,
    e.MentionsOnly names (plan.scope names clauses) column := by
  intro e hMem
  obtain ⟨item, hItem, rfl⟩ := List.mem_map.mp hMem
  obtain ⟨column, hColumn, hOnly⟩ :=
    exists_of_forall₂_right (hPlan.mentionsOnly_items hOwns hClauses) hItem
  exact ⟨column, List.mem_append_left _ hColumn, hOnly⟩

theorem mentionsOnly_testExprs : ∀ e ∈ (plan.filterConditions names plan.filters {}).1,
    ∃ column ∈ spec.columns, e.MentionsOnly names (plan.scope names clauses) column := by
  intro e hMem
  obtain ⟨f, hFilter, hOnly⟩ :=
    exists_of_forall₂_right (hPlan.mentionsOnly_tests hOwns hClauses) hMem
  exact ⟨f.column, List.mem_append_right _ (List.mem_map_of_mem hFilter), hOnly⟩

theorem mentionsOnly_groups : ∀ e ∈ plan.groups names, ∃ column ∈ spec.columns,
    e.MentionsOnly names (plan.scope names clauses) column := by
  intro e hMem
  rw [Plan.groups_eq, List.map_take] at hMem
  exact hPlan.mentionsOnly_itemExprs hOwns hClauses e (List.mem_of_mem_take hMem)

/-- What is mentioned beyond the anchor's table: by the join, or by the columns in the clauses. -/
theorem mem_mentions {sourceLimit : UInt64} {m : Mention}
    (hMem : m ∈ (plan.statement names d sourceLimit clauses).query.mentions []) :
    m = .bound (.table (names.tableRef plan.anchor leftName)) ∨
      m ∈ clauseMentions (leftScope names plan.anchor) clauses ∨
      ∃ column ∈ spec.columns, ∃ e : Expr, e.MentionsOnly names (plan.scope names clauses) column ∧
        m ∈ e.mentions (plan.scope names clauses) := by
  rw [Plan.mentions_statement, itemMentions_eq] at hMem
  simp only [List.mem_cons, List.mem_append] at hMem
  rcases hMem with hBound | ((hJoin | hItem) | (hProbe | hTest)) | hGroup
  · exact .inl hBound
  · exact .inr (.inl (List.mem_append_left _ hJoin))
  · exact .inr (.inr (exists_mentionsOnly (hPlan.mentionsOnly_itemExprs hOwns hClauses) hItem))
  · exact .inr (.inl (List.mem_append_right _ hProbe))
  · exact .inr (.inr (exists_mentionsOnly (hPlan.mentionsOnly_testExprs hOwns hClauses) hTest))
  · exact .inr (.inr (exists_mentionsOnly (hPlan.mentionsOnly_groups hOwns hClauses) hGroup))

/-- Only the anchor's table and the join bind names. -/
theorem boundNames_statement (sourceLimit : UInt64) :
    boundNames ((plan.statement names d sourceLimit clauses).query.mentions []) =
      leftName :: boundNames (clauseMentions (leftScope names plan.anchor) clauses) := by
  have hItems := boundNames_exprMentions (hPlan.mentionsOnly_itemExprs hOwns hClauses)
  have hTests := boundNames_exprMentions (hPlan.mentionsOnly_testExprs hOwns hClauses)
  have hGroups := boundNames_exprMentions (hPlan.mentionsOnly_groups hOwns hClauses)
  rw [Plan.mentions_statement, itemMentions_eq, boundNames_cons_bound]
  simp only [boundNames_append, hItems, hTests, hGroups, clauseMentions, List.append_nil]
  rfl

/-- The statement is well scoped if the clauses of its join are. -/
theorem wellScoped_statement (sourceLimit : UInt64) : WellScoped spec c plan names d
    (plan.statement names d sourceLimit clauses).query := by
  have hNames := hPlan.boundNames_statement hOwns hClauses sourceLimit
  have hLeft : leftName ≠ rightName := by decide
  constructor
  case join => exact fun join hJoin => hPlan.realizes hJoin
  case source => rfl
  case left =>
    rw [hNames, List.count_cons_self, List.count_eq_zero_of_not_mem hClauses.left]
  case right =>
    intro join hJoin hBoth
    refine ⟨hClauses.projected join hJoin hBoth, ?_⟩
    rw [hNames, List.count_cons_of_ne hLeft, hClauses.right, if_pos ⟨join, hJoin, hBoth⟩]
  case unjoined =>
    intro hSemi
    have hNone : ¬∃ join, plan.join = some join ∧ join.kind.projectsBoth := by
      rintro ⟨join, hJoin, hBoth⟩
      simp [hSemi join hJoin, JoinKind.projectsBoth] at hBoth
    have hRight :
        rightName ∉ boundNames (clauseMentions (leftScope names plan.anchor) clauses) := by
      rw [← List.count_eq_zero, hClauses.right, if_neg hNone]
    refine ⟨hClauses.unjoined hSemi, ?_⟩
    rw [hNames]
    exact List.not_mem_cons_of_ne_of_not_mem hLeft.symm hRight
  case inner =>
    -- Columns are mentioned in the scope of the query, where the inner name is not bound.
    refine ⟨hClauses.innerName_notMem, ?_⟩
    intro scope column hMem
    rcases hPlan.mem_mentions hOwns hClauses hMem with hBound | hJoin | ⟨named, -, e, hOnly, hE⟩
    · cases hBound
    · obtain ⟨join, hJoin, ⟨source, hBound⟩ | ⟨-, hInner⟩⟩ := hClauses.fits _ hJoin
      · cases hBound
      · obtain ⟨outer, hScope⟩ := hInner scope column rfl
        exact ⟨join, outer, hJoin, hScope⟩
    · exact absurd hE (hOnly.not_used hClauses.innerName_notMem scope column)
  case mentions =>
    intro m hMem
    rcases hPlan.mem_mentions hOwns hClauses hMem with hBound | hJoin |
      ⟨column, hColumn, e, hOnly, hE⟩
    · exact .inl ⟨_, hBound⟩
    · obtain ⟨join, hJoin, hBound | ⟨hMentions, -⟩⟩ := hClauses.fits m hJoin
      · exact .inl hBound
      · exact .inr (.inr ⟨join, hJoin, hMentions⟩)
    · exact .inr (.inl ⟨column, hColumn, hOnly.isField hE⟩)
  case items => exact hPlan.mentionsOnly_items hOwns hClauses
  case tests => exact ⟨clauses.2, _, rfl, hPlan.mentionsOnly_tests hOwns hClauses⟩
  case groups =>
    rw [hPlan.axes.length_eq]
    exact Plan.groups_eq
  case orders =>
    intro order hMem
    obtain ⟨key, hKey, hExpr⟩ := plan.mem_orders hMem
    have hReported : key ∈ plan.keys := by
      rcases List.mem_append.mp hKey with hSort | hMeasure
      · obtain ⟨s, hMemSort, rfl⟩ := List.mem_map.mp hSort
        exact hPlan.sort_mem hMemSort
      · exact List.mem_append_right _ hMeasure
    have hName : some key ∈ (plan.items names).map Item.name := by
      rw [Plan.map_name_items]
      exact List.mem_map_of_mem hReported
    obtain ⟨item, hItem, hItemName⟩ := List.mem_map.mp hName
    exact ⟨item, hItem, key, hItemName, hExpr⟩

end Spec.ResolvesTo

/-- Every accepted specification has a statement that is well scoped, whatever catalog it was
checked against, whatever tables and columns are called, and in every dialect. -/
theorem wellScoped_compile {source : Source} {c : Catalog} {spec : Spec} {maxLimit : UInt64}
    {plan : Plan} (hLoad : Catalog.load source = .ok c) (hSpec : spec.resolve c maxLimit = .ok plan)
    (names : Naming) (d : Dialect) (sourceLimit : UInt64) : ∃ s,
      plan.compile names d sourceLimit = .ok s ∧ WellScoped spec c plan names d s.query := by
  have hOwns := Catalog.ownsColumns_load hLoad
  have hPlan := Spec.resolve_ok hSpec
  have hAnchor : ∀ join, plan.join = some join → join.leftEntity = plan.anchor := by
    intro join hJoin
    obtain ⟨given, -, hRealizes⟩ := hPlan.realizes hJoin
    exact hRealizes.left
  obtain ⟨clauses, hEq, hClauses⟩ := Plan.exists_scopedClauses hAnchor names d
  refine ⟨plan.statement names d sourceLimit clauses, ?_,
    hPlan.wellScoped_statement hOwns hClauses sourceLimit⟩
  rw [Plan.compile_eq, hEq]
  rfl

/-- The refunds for each brand, with one return for each record of the inventory. -/
def Spec.refundsByBrand : Spec where
  dimensions := [{ column := { entity := "inventory", field := "brand" }, key := "brand" }]
  measures := [{
    column := { entity := "returns", field := "refundAmount" },
    aggregation := .sum, key := "refund" }]
  relationship := some {
    leftEntity := "inventory", rightEntity := "returns", kind := some .first
    pairs := [⟨"sku", "sku", .eq⟩] }

/-- A sub-select that picks one row keeps its names to itself. -/
theorem wellScoped_refundsByBrand : ∃ c plan s, Catalog.load Registry.builtin.source = .ok c ∧
    Spec.refundsByBrand.resolve c 10 = .ok plan ∧ plan.compile {} .sqlite 100 = .ok s ∧
    WellScoped Spec.refundsByBrand c plan {} .sqlite s.query := by
  obtain ⟨s, hCompile, hScoped⟩ :=
    @wellScoped_compile Registry.builtin.source _ Spec.refundsByBrand 10 _ rfl rfl {} .sqlite 100
  exact ⟨_, _, s, rfl, rfl, hCompile, hScoped⟩

end Crosstab
