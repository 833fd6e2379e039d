import Crosstab.Proofs.Catalog.Load
import Crosstab.Proofs.Plan.Resolve
import Crosstab.Proofs.Statement.Compile

/-!
What a caller says of columns. A specification identifies columns by entity and field, and
everything else that is known of them comes from the catalog. Labels, kinds and marks that a caller
sends along count for nothing, and neither do the ids of axes and measures or the entities that are
declared, as long as they are known.
-/

namespace Crosstab

def Column.bare (column : Column) : Column := { entity := column.entity, field := column.field }

def Dimension.bare (d : Dimension) : Dimension := { d with id := "", column := d.column.bare }

def Measure.bare (m : Measure) : Measure := { m with id := "", column := m.column.bare }

def Filter.bare (f : Filter) : Filter := { f with column := f.column.bare }

namespace Spec

/-- The specification with bare columns, without ids and without declared entities. -/
def bare (spec : Spec) : Spec :=
  { spec with
    entities := []
    dimensions := spec.dimensions.map Dimension.bare
    columnDimensions := spec.columnDimensions.map Dimension.bare
    measures := spec.measures.map Measure.bare
    filters := spec.filters.map Filter.bare }

variable {spec other : Spec} {c : Catalog}

theorem axes_bare (spec : Spec) : spec.bare.axes = spec.axes.map Dimension.bare :=
  List.map_append.symm

/-- Descriptions do not enter keys. -/
theorem keys_bare (spec : Spec) : spec.bare.keys = spec.keys := by
  have hMeasures : spec.bare.measures = spec.measures.map Measure.bare := rfl
  rw [keys, axes_bare, hMeasures, List.map_map, List.map_map]
  rfl

/-- Descriptions do not decide which entities are referred to. -/
theorem referencedEntities_bare (spec : Spec) :
    spec.bare.referencedEntities = spec.referencedEntities := by
  have hMeasures : spec.bare.measures = spec.measures.map Measure.bare := rfl
  have hFilters : spec.bare.filters = spec.filters.map Filter.bare := rfl
  simp only [referencedEntities, columns, axes_bare, hMeasures, hFilters,
    List.map_append, List.map_map]
  rfl

/-- Every check reads what the bare specification has, and refuses it in the same terms. -/
theorem resolve_bare (hKnown : ∀ entity ∈ spec.entities, c.hasEntity entity) (maxLimit : UInt64) :
    spec.bare.resolve c maxLimit = spec.resolve c maxLimit := by
  have hEntities : c.checkEntities spec.bare.entities = c.checkEntities spec.entities := by
    have hNone : spec.entities.find? (fun entity => !c.hasEntity entity) = none := by
      simpa using hKnown
    simp only [Catalog.checkEntities, hNone]
    rfl
  have hNothing : (spec.bare.axes.isEmpty && spec.bare.measures.isEmpty) =
      (spec.axes.isEmpty && spec.measures.isEmpty) := by
    rw [axes_bare, bare, List.isEmpty_map, List.isEmpty_map]
  have hDimensions : spec.bare.dimensions.mapM c.resolveAxis = spec.dimensions.mapM c.resolveAxis :=
    List.mapM_map
  have hColumnDimensions : spec.bare.columnDimensions.mapM c.resolveAxis =
      spec.columnDimensions.mapM c.resolveAxis := List.mapM_map
  have hMeasures : spec.bare.measures.mapM c.resolveMeasure = spec.measures.mapM c.resolveMeasure :=
    List.mapM_map
  have hFilters : spec.bare.filters.mapM c.resolveFilter = spec.filters.mapM c.resolveFilter :=
    List.mapM_map
  simp only [resolve, hNothing, keys_bare, hEntities, hDimensions, hColumnDimensions, hMeasures,
    hFilters, referencedEntities_bare]
  rfl

end Spec

/-- A caller cannot change what the catalog says. Specifications that differ in ids, in what they
say of columns beyond entity and field, and in the known entities that they declare have one plan or
are rejected for one reason, and their statements have the same text and the same values in every
dialect. -/
theorem resolve_eq_of_bare {spec other : Spec} {c : Catalog} (hSame : spec.bare = other.bare)
    (hKnown : ∀ entity ∈ spec.entities, c.hasEntity entity)
    (hOtherKnown : ∀ entity ∈ other.entities, c.hasEntity entity) (maxLimit : UInt64) :
    spec.resolve c maxLimit = other.resolve c maxLimit ∧
      ∀ plan, spec.resolve c maxLimit = .ok plan → ∀ names d sourceLimit, ∃ otherPlan s t,
        other.resolve c maxLimit = .ok otherPlan ∧ plan.compile names d sourceLimit = .ok s ∧
        otherPlan.compile names d sourceLimit = .ok t ∧ t.sql = s.sql ∧ t.values = s.values := by
  have hEq : spec.resolve c maxLimit = other.resolve c maxLimit := by
    rw [← Spec.resolve_bare hKnown, hSame, Spec.resolve_bare hOtherKnown]
  refine ⟨hEq, ?_⟩
  intro plan hPlan names d sourceLimit
  obtain ⟨clauses, -, hCompile, -⟩ := plan.compile_eq_ok names d sourceLimit
  exact ⟨plan, _, _, hEq ▸ hPlan, hCompile, hCompile, rfl, rfl⟩

/-- The largest value of a column for each region. -/
def Spec.largestByRegion (entities : List String) (id : String) (column : Column) : Spec where
  entities := entities
  dimensions := [{ column := { entity := "inventory", field := "region" }, key := "region" }]
  measures := [{ id, column, aggregation := .max, key := "largest" }]

/-- Revenue stays a number though the caller calls it a text and a secret, and a brand does not
become one. -/
theorem resolve_eq_of_relabelled : ∃ c plan s t, Catalog.load Registry.builtin.source = .ok c ∧
    (Spec.largestByRegion ["inventory", "returns"] "m1"
      { entity := "inventory", field := "revenue", label := "Secret" }).resolve c 10 = .ok plan ∧
    (Spec.largestByRegion [] "" (.ofNumbers "inventory" "revenue")).resolve c 10 = .ok plan ∧
    plan.measures.map PlannedMeasure.label = ["Max of Revenue"] ∧
    plan.compile {} .duckdb 100 = .ok s ∧ plan.compile {} .duckdb 100 = .ok t ∧ t.sql = s.sql ∧
    (Spec.largestByRegion [] "" (.ofNumbers "inventory" "brand")).resolve c 10 =
      .error (.spec (.aggregationMismatch .max "inventory" "brand" .text)) := by
  obtain ⟨hRevenue, hStatement⟩ := @resolve_eq_of_bare
    (.largestByRegion ["inventory", "returns"] "m1"
      { entity := "inventory", field := "revenue", label := "Secret" })
    (.largestByRegion [] "" (.ofNumbers "inventory" "revenue")) .builtin rfl
      (by decide) (by decide) 10
  obtain ⟨hBrand, -⟩ := @resolve_eq_of_bare
    (.largestByRegion [] "" (.ofNumbers "inventory" "brand"))
    (.largestByRegion ["inventory"] "m1" (.ofTexts "inventory" "brand")) .builtin rfl (by decide)
    (by decide) 10
  obtain ⟨plan, s, t, hPlan, hCompile, hOther, hSql, -⟩ := hStatement _ rfl {} .duckdb 100
  cases hPlan
  exact ⟨.builtin, _, s, t, rfl, rfl, hRevenue.symm, rfl, hCompile, hOther, hSql, hBrand⟩

end Crosstab
