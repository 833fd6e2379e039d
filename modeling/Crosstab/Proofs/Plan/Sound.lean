import Crosstab.Proofs.Catalog.Load
import Crosstab.Proofs.Plan.Resolve
import Crosstab.Proofs.Plan.Value
import Crosstab.Proofs.Text.Blank

/-!
Soundness of plans. What is compiled and reported afterwards relies on a plan being well formed, and
every plan that an accepted specification resolves to is.
-/

namespace Crosstab

open Crosstab.Text

/-- A name as it is used: something is written, without blanks around it. -/
def Text.IsName (s : String) : Prop := trim s = s ∧ s ≠ ""

theorem Text.isName_trim {s : String} (h : ¬isBlankText s) : IsName (trim s) :=
  ⟨trim_trim s, fun hEmpty => h (trim_eq_empty.mp hEmpty)⟩

/-- The columns of axes, measures and filters, in the order in which specifications name them. -/
def Plan.columns (plan : Plan) : List Column :=
  plan.axes.map PlannedAxis.column ++ plan.measures.map PlannedMeasure.column ++
    plan.filters.map PlannedFilter.column

/-- A join with conditions, each of which relates a field of the left entity to one of the right. -/
structure PlannedJoin.Conditioned (join : PlannedJoin) (c : Catalog) : Prop where
  nonempty : join.pairs ≠ []
  names : ∀ pair ∈ join.pairs, IsName pair.leftField ∧ IsName pair.rightField
  fields : ∀ pair ∈ join.pairs, (c.column? join.leftEntity pair.leftField).isSome ∧
    (c.column? join.rightEntity pair.rightField).isSome

/-- The way in which the entities of a plan are read: one of them, with nothing joined that could
contribute a value, or two, joined from the one that rows are read from to the other. -/
structure Plan.ReadsEntities (plan : Plan) : Prop where
  count : plan.referencedEntities.length = 1 ∨ plan.referencedEntities.length = 2
  single : ∀ a, plan.referencedEntities = [a] → plan.anchor = a ∧
    ∀ join, plan.join = some join → join.kind = .semi ∧ join.leftEntity = a
  double : ∀ a b, plan.referencedEntities = [a, b] → ∃ join, plan.join = some join ∧
    join.kind ≠ .semi ∧ join.leftEntity = plan.anchor ∧
    ((join.leftEntity = a ∧ join.rightEntity = b) ∨ (join.leftEntity = b ∧ join.rightEntity = a))

/-- What a plan for a specification promises. -/
structure Plan.Sound (plan : Plan) (spec : Spec) (c : Catalog) (maxLimit : UInt64) : Prop where
  dimensions : plan.dimensions.map PlannedAxis.key = spec.dimensions.map Dimension.key
  columnDimensions :
    plan.columnDimensions.map PlannedAxis.key = spec.columnDimensions.map Dimension.key
  measures : plan.measures.map (fun m => (m.aggregation, m.key)) =
    spec.measures.map fun m => (m.aggregation, m.key)
  keysGiven : ∀ key ∈ plan.keys, ¬isBlankText key
  keysDistinct : plan.keys.Nodup
  sorts : plan.sorts = spec.sorts
  sortKeys : ∀ s ∈ plan.sorts, s.key ∈ plan.keys
  /-- Each column is the catalog's own entry for what the specification names. -/
  columns : List.Forall₂ (fun named entry => c.column? named.entity named.field = some entry ∧
    entry.entity = named.entity ∧ entry.field = named.field) spec.columns plan.columns
  summable : ∀ m ∈ plan.measures, m.aggregation ∈ [Aggregation.sum, .avg, .min, .max] →
    m.column.kind = .numeric ∧ m.column.aggregatable
  filters : ∀ f ∈ plan.filters,
    f.value.form = f.operator.form f.column.kind f.value.values.length
  referenced : plan.referencedEntities = (plan.columns.map Column.entity).eraseDups
  known : ∀ entity ∈ plan.referencedEntities, c.hasEntity entity
  entities : plan.ReadsEntities
  joins : ∀ join, plan.join = some join → join.Conditioned c
  limit : plan.limit = min spec.limit maxLimit

/-- A complete condition, trimmed, names both fields. -/
theorem FieldPair.isName_trimmed {pair : FieldPair} (h : pair.isComplete) :
    IsName pair.trimmed.leftField ∧ IsName pair.trimmed.rightField := by
  obtain ⟨hLeft, hRight⟩ : ¬isBlankText pair.leftField ∧ ¬isBlankText pair.rightField := by
    simpa [isComplete] using h
  exact ⟨isName_trim hLeft, isName_trim hRight⟩

/-- Wherever the conditions come from, incomplete ones are left out and names are trimmed. -/
theorem Catalog.Realizes.conditioned {c : Catalog} {given : Relationship} {entity : String}
    {join : PlannedJoin} (h : c.Realizes given entity join) : join.Conditioned c where
  nonempty := h.nonempty
  names := by
    intro pair hMem
    rw [h.pairs, pairsFor] at hMem
    obtain ⟨own, -, hComplete, rfl⟩ := mem_completePairs.mp hMem
    exact own.isName_trimmed hComplete
  fields := h.fields

theorem Aggregation.requiresNumeric_of_mem {a : Aggregation}
    (h : a ∈ [Aggregation.sum, .avg, .min, .max]) : a.requiresNumeric := by
  cases a <;> first | rfl | simp at h

namespace Spec.ResolvesTo

variable {spec : Spec} {c : Catalog} {maxLimit : UInt64} {plan : Plan}
  (h : spec.ResolvesTo c maxLimit plan)

include h

/-- Every column that a specification names is resolved, in order. -/
theorem resolved_columns : List.Forall₂ (fun named entry => c.resolveColumn named = .ok entry)
    spec.columns plan.columns := by
  refine List.rel_append (List.rel_append ?_ ?_) ?_
  · exact forall₂_map (h.axes.imp fun _ _ hAxis => (Catalog.resolveAxis_eq_ok.mp hAxis).2)
  · exact forall₂_map (h.measures.imp fun _ _ hMeasure =>
      (Catalog.resolveMeasure_eq_ok.mp hMeasure).2.2.1)
  · exact forall₂_map (h.filters.imp fun _ _ hFilter =>
      (Catalog.resolveFilter_eq_ok.mp hFilter).2.1)

/-- What needs numbers is applied to columns of numbers. -/
theorem summable {m : PlannedMeasure} (hMem : m ∈ plan.measures)
    (hNumeric : m.aggregation.requiresNumeric) : m.column.isSummable := by
  obtain ⟨given, -, hMeasure⟩ := exists_of_forall₂_right h.measures hMem
  obtain ⟨-, hAggregation, -, hSuits⟩ := Catalog.resolveMeasure_eq_ok.mp hMeasure
  exact hSuits (hAggregation ▸ hNumeric)

/-- The value of a filter has the form that its operator needs. -/
theorem form_filter {f : PlannedFilter} (hMem : f ∈ plan.filters) :
    f.value.form = f.operator.form f.column.kind f.value.values.length := by
  obtain ⟨given, -, hFilter⟩ := exists_of_forall₂_right h.filters hMem
  obtain ⟨hOperator, -, hRead⟩ := Catalog.resolveFilter_eq_ok.mp hFilter
  rw [hOperator]
  exact FilterValue.form_read hRead

/-- A plan reads the entities that it refers to, and no other. -/
theorem readsEntities : plan.ReadsEntities := by
  obtain ⟨warnings, hCombined, -⟩ := h.combined
  rw [← h.referenced] at hCombined
  rcases Catalog.resolveEntities_cases hCombined with
    ⟨hOne, hSemi⟩ | ⟨a, b, joined, hTwo, hJoin, hSides, hBoth, given, -, hRealizes⟩
  · constructor
    case count => simp [hOne]
    case single =>
      intro a hEq
      obtain rfl : plan.anchor = a := by simpa [hOne] using hEq
      refine ⟨rfl, ?_⟩
      intro join hJoin
      obtain ⟨hKind, given, -, hRealizes⟩ := hSemi join hJoin
      exact ⟨hKind, hRealizes.left⟩
    case double => simp [hOne]
  · constructor
    case count => simp [hTwo]
    case single => simp [hTwo]
    case double =>
      intro first second hEq
      obtain ⟨rfl, rfl⟩ : a = first ∧ b = second := by simpa [hTwo] using hEq
      refine ⟨joined, hJoin, by simpa [JoinKind.projectsBoth] using hBoth, hRealizes.left, ?_⟩
      rw [hRealizes.left]
      exact hSides

/-- A planned join has conditions between fields of its two sides. -/
theorem conditioned {join : PlannedJoin} (hJoin : plan.join = some join) : join.Conditioned c := by
  obtain ⟨given, -, hRealizes⟩ := h.realizes hJoin
  exact hRealizes.conditioned

/-- In a catalog whose columns belong to the entities that list them, the entities that a plan lists
are those of its own columns. -/
theorem referencedEntities_eq (hOwns : c.OwnsColumns) :
    plan.referencedEntities = Keyed.distinct (plan.columns.map Column.entity) := by
  have hEntities : plan.columns.map Column.entity = spec.columns.map Column.entity :=
    map_eq_of_forall₂ h.resolved_columns fun _ _ hColumn =>
      (hOwns.of_column? (Catalog.resolveColumn_eq_ok.mp hColumn).2).1
  rw [h.referenced, hEntities, Spec.referencedEntities]

/-- Entities that a plan refers to are listed. -/
theorem hasEntity_of_mem {entity : String} (hMem : entity ∈ plan.referencedEntities) :
    c.hasEntity entity := by
  rw [h.referenced, Spec.referencedEntities, Keyed.mem_distinct] at hMem
  obtain ⟨named, hNamed, rfl⟩ := List.mem_map.mp hMem
  obtain ⟨entry, -, hColumn⟩ := exists_of_forall₂_right h.resolved_columns.flip hNamed
  exact (Catalog.resolveColumn_eq_ok.mp hColumn).1

end Spec.ResolvesTo

/-- Every accepted specification resolves to a sound plan, whatever source the catalog was loaded
from and whatever the maximum. -/
theorem sound_resolve {source : Source} {c : Catalog} {spec : Spec} {maxLimit : UInt64}
    {plan : Plan} (hLoad : Catalog.load source = .ok c)
    (hSpec : spec.resolve c maxLimit = .ok plan) : plan.Sound spec c maxLimit := by
  have hOwns := Catalog.ownsColumns_load hLoad
  have hPlan := Spec.resolve_ok hSpec
  constructor
  case dimensions => exact hPlan.dimensionKeys
  case columnDimensions => exact hPlan.columnKeys
  case measures =>
    apply map_eq_of_forall₂ hPlan.measures
    intro _ _ hMeasure
    obtain ⟨hKey, hAggregation, -⟩ := Catalog.resolveMeasure_eq_ok.mp hMeasure
    rw [hKey, hAggregation]
  case keysGiven =>
    rw [hPlan.keys_eq]
    exact (checkKeys_eq_ok.mp hPlan.keys).1
  case keysDistinct => exact hPlan.nodup_keys
  case sorts =>
    have hSame : plan.sorts.map id = spec.sorts.map id :=
      map_eq_of_forall₂ hPlan.sorts fun _ _ hSort => (Catalog.resolveSort_eq_ok.mp hSort).2
    simpa using hSame
  case sortKeys => exact fun s hMem => hPlan.sort_mem hMem
  case columns =>
    apply hPlan.resolved_columns.imp
    intro named entry hColumn
    have hFound := (Catalog.resolveColumn_eq_ok.mp hColumn).2
    exact ⟨hFound, hOwns.of_column? hFound⟩
  case summable =>
    intro m hMem hAggregation
    have hSummable := hPlan.summable hMem (Aggregation.requiresNumeric_of_mem hAggregation)
    simpa [Column.isSummable] using hSummable
  case filters => exact fun f hMem => hPlan.form_filter hMem
  case referenced => rw [hPlan.referencedEntities_eq hOwns, Keyed.distinct_eq_eraseDups]
  case known => exact fun entity hMem => hPlan.hasEntity_of_mem hMem
  case entities => exact hPlan.readsEntities
  case joins => exact fun join hJoin => hPlan.conditioned hJoin
  case limit => exact hPlan.limit

/-- The refunds for each reason, of goods that are still in the inventory. The relationship is
written from the other side and leaves its conditions to the catalog. -/
def Spec.refundsByReason : Spec where
  dimensions := [{ column := { entity := "returns", field := "reason" }, key := "reason" }]
  measures := [{
    column := { entity := "returns", field := "refundAmount" },
    aggregation := .sum, key := "refund" }]
  sorts := [{ key := "refund", direction := .desc }]
  relationship := some { leftEntity := "inventory", rightEntity := "returns", kind := some .semi }

/-- Refunds for each reason, kept to goods in stock, are planned soundly. -/
theorem sound_refundsByReason : ∃ c plan, Catalog.load Registry.builtin.source = .ok c ∧
    Spec.refundsByReason.resolve c 10 = .ok plan ∧ plan.Sound Spec.refundsByReason c 10 ∧
    plan.join = some ⟨"returns", "inventory", .semi, [⟨"sku", "sku", .eq⟩]⟩ :=
  ⟨_, _, rfl, rfl, @sound_resolve Registry.builtin.source _ Spec.refundsByReason 10 _ rfl rfl, rfl⟩

end Crosstab
