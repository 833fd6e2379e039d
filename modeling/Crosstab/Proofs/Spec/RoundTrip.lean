import Crosstab.Plan.Resolve
import Crosstab.Proofs.Document.RoundTrip
import Crosstab.Spec.Json

/-!
Specifications that are written and read again. Reading fills in what the writer left out, so that
nothing is lost by writing in full; only a filter value that is null cannot be told from a missing
one, and no check tells them apart either.
-/

namespace Crosstab

section Constants

/-! Every constant is written under a name that it is read by. -/

theorem ValueKind.constant?_name (kind : ValueKind) :
    Document.constant? .json ValueKind.names (.text kind.name) = some kind := by
  cases kind <;> rfl

theorem Comparator.ofDocument?_symbol (c : Comparator) :
    Comparator.ofDocument? .json (.text c.symbol) = some c := by
  cases c <;> rfl

theorem JoinKind.ofDocument?_name (kind : JoinKind) :
    JoinKind.ofDocument? .json (.text kind.name) = some kind := by
  cases kind <;> rfl

theorem SortDirection.ofDocument?_name (direction : SortDirection) :
    SortDirection.ofDocument? (.text direction.name) = some direction := by
  cases direction <;> rfl

theorem Aggregation.ofDocument?_name (a : Aggregation) :
    Aggregation.ofDocument? (.text a.name) = some a := by
  cases a <;> rfl

theorem FilterOperator.ofDocument?_name (operator : FilterOperator) :
    FilterOperator.ofDocument? (.text operator.name) = some operator := by
  cases operator <;> rfl

end Constants

/-! Records. Which fields are there is found by evaluation, and what stands in them by what has been
shown of their kinds. -/

/-- A column is read back as it was written. -/
theorem Column.ofDocument?_toJson (column : Column) :
    Column.ofDocument? (.ofJson column.toJson) = some column := by
  have hRead : Column.ofDocument? (.ofJson column.toJson) =
      (Document.constant? .json ValueKind.names (.text column.kind.name)).bind fun kind =>
        some { column with kind } := rfl
  rw [hRead, column.kind.constant?_name]
  rfl

theorem FieldPair.ofDocument?_toJson (pair : FieldPair) :
    FieldPair.ofDocument? (.ofJson pair.toJson) = some pair := by
  have hRead : FieldPair.ofDocument? (.ofJson pair.toJson) =
      (Comparator.ofDocument? .json (.text pair.comparator.symbol)).bind fun comparator =>
        some { pair with comparator } := rfl
  rw [hRead, pair.comparator.ofDocument?_symbol]
  rfl

theorem SortKey.ofDocument?_toJson (s : SortKey) :
    SortKey.ofDocument? (.ofJson s.toJson) = some s := by
  have hRead : SortKey.ofDocument? (.ofJson s.toJson) =
      (SortDirection.ofDocument? (.text s.direction.name)).bind fun direction =>
        some { s with direction } := rfl
  rw [hRead, s.direction.ofDocument?_name]
  rfl

theorem Dimension.ofDocument?_toJson (d : Dimension) :
    Dimension.ofDocument? (.ofJson d.toJson) = some d := by
  have hRead : Dimension.ofDocument? (.ofJson d.toJson) =
      (Column.ofDocument? (.ofJson d.column.toJson)).bind fun column =>
        some { d with column } := rfl
  rw [hRead, d.column.ofDocument?_toJson]
  rfl

theorem Measure.ofDocument?_toJson (m : Measure) :
    Measure.ofDocument? (.ofJson m.toJson) = some m := by
  have hRead : Measure.ofDocument? (.ofJson m.toJson) =
      (Column.ofDocument? (.ofJson m.column.toJson)).bind fun column =>
        (Aggregation.ofDocument? (.text m.aggregation.name)).bind fun aggregation =>
          some { m with column, aggregation } := rfl
  rw [hRead, m.column.ofDocument?_toJson, m.aggregation.ofDocument?_name]
  rfl

/-- The filter without a value if its value is null. -/
def Filter.settled (f : Filter) : Filter := { f with value := f.value.filter (!·.isNull) }

/-- A filter is read back without its value if that is null. -/
theorem Filter.ofDocument?_toJson (f : Filter)
    (h : ∀ value, f.value = some value → value.Distinct) :
    Filter.ofDocument? (.ofJson f.toJson) = some f.settled := by
  obtain ⟨column, operator, value⟩ := f
  let written := (value.map fun value => ("value", Document.ofJson value)).toList
  have hRead : Filter.ofDocument? (.ofJson (Filter.mk column operator value).toJson) =
      (Column.ofDocument? (.ofJson column.toJson)).bind fun column =>
        (FilterOperator.ofDocument? (.text operator.name)).bind fun operator =>
          (Document.nullable? written "value" Document.toJson?).bind fun value =>
            some { column, operator, value } := by
    cases value <;> rfl
  have hValue : Document.nullable? written "value" Document.toJson? =
      some (value.filter (!·.isNull)) := by
    cases value with
    | none => rfl
    | some value => exact Document.nullable?_ofJson rfl (h value rfl)
  rw [hRead, column.ofDocument?_toJson, operator.ofDocument?_name, hValue]
  rfl

theorem Relationship.ofDocument?_toJson (r : Relationship) :
    Relationship.ofDocument? (.ofJson r.toJson) = some r := by
  obtain ⟨leftEntity, rightEntity, kind, pairs, enabled⟩ := r
  have hPairs := Document.list?_ofJson fun pair (_ : pair ∈ pairs) => pair.ofDocument?_toJson
  rw [List.map_id'] at hPairs
  cases kind with
  | none =>
      have hRead : Relationship.ofDocument?
          (.ofJson (Relationship.mk leftEntity rightEntity none pairs enabled).toJson) =
          (Document.list? FieldPair.ofDocument? (.ofJson (.list (pairs.map FieldPair.toJson)))).bind
            fun pairs => some { leftEntity, rightEntity, kind := none, pairs, enabled } := rfl
      rw [hRead, hPairs]
      rfl
  | some kind =>
      have hRead : Relationship.ofDocument?
          (.ofJson (Relationship.mk leftEntity rightEntity (some kind) pairs enabled).toJson) =
          ((JoinKind.ofDocument? .json (.text kind.name)).map some).bind fun kind =>
            (Document.list? FieldPair.ofDocument?
              (.ofJson (.list (pairs.map FieldPair.toJson)))).bind
              fun pairs => some { leftEntity, rightEntity, kind, pairs, enabled } := rfl
      rw [hRead, kind.ofDocument?_name, hPairs]
      rfl

/-- The specification without the filter values that are null. -/
def Spec.settled (spec : Spec) : Spec := { spec with filters := spec.filters.map Filter.settled }

/-- A specification is read back, except that values that are null are left out. -/
theorem Spec.ofJson?_toJson (spec : Spec)
    (h : ∀ f ∈ spec.filters, ∀ value, f.value = some value → value.Distinct) :
    Spec.ofJson? spec.toJson = some spec.settled := by
  obtain ⟨entities, dimensions, columnDimensions, measures, filters, sorts, relationship, limit⟩ :=
    spec
  let written := (relationship.map fun r => ("relationship", Document.ofJson r.toJson)).toList
  have hRead : Spec.ofJson? (Spec.mk entities dimensions columnDimensions measures filters sorts
      relationship limit).toJson =
      (Document.list? Document.text? (.ofJson (.texts entities))).bind fun entities =>
      (Document.list? Dimension.ofDocument?
        (.ofJson (.list (dimensions.map Dimension.toJson)))).bind fun dimensions =>
      (Document.list? Dimension.ofDocument?
        (.ofJson (.list (columnDimensions.map Dimension.toJson)))).bind fun columnDimensions =>
      (Document.list? Measure.ofDocument? (.ofJson (.list (measures.map Measure.toJson)))).bind
        fun measures =>
      (Document.list? Filter.ofDocument? (.ofJson (.list (filters.map Filter.toJson)))).bind
        fun filters =>
      (Document.list? SortKey.ofDocument? (.ofJson (.list (sorts.map SortKey.toJson)))).bind
        fun sorts =>
      (Document.nullable? written "relationship" Relationship.ofDocument?).bind fun relationship =>
      (Document.word64? (.ofJson (.int limit.toNat))).bind fun limit =>
        some { entities, dimensions, columnDimensions, measures, filters, sorts, relationship,
               limit } := by
    cases relationship <;> rfl
  have hEntities : Document.list? Document.text? (.ofJson (.texts entities)) = some entities := by
    have hText (s : String) (_ : s ∈ entities) : Document.text? (.ofJson (.text s)) = some s := rfl
    have hAll := Document.list?_ofJson hText
    rwa [List.map_id'] at hAll
  have hDimensions := Document.list?_ofJson fun x (_ : x ∈ dimensions) => x.ofDocument?_toJson
  have hColumnDimensions := Document.list?_ofJson fun x (_ : x ∈ columnDimensions) =>
    x.ofDocument?_toJson
  have hMeasures := Document.list?_ofJson fun x (_ : x ∈ measures) => x.ofDocument?_toJson
  have hFilters := Document.list?_ofJson fun x (hMem : x ∈ filters) =>
    x.ofDocument?_toJson (h x hMem)
  have hSorts := Document.list?_ofJson fun x (_ : x ∈ sorts) => x.ofDocument?_toJson
  have hRelationship : Document.nullable? written "relationship" Relationship.ofDocument? =
      some relationship := by
    cases relationship with
    | none => rfl
    | some r => exact congrArg (Option.map some) r.ofDocument?_toJson
  rw [hRead, hEntities, hDimensions, hColumnDimensions, hMeasures, hFilters, hSorts, hRelationship,
    Document.word64?_ofJson]
  simp only [Option.bind_some, List.map_id', settled]

section Settled

variable (c : Catalog)

/-- It makes no difference whether a value is null or missing. -/
theorem FilterValue.read_settled (kind : ValueKind) (operator : FilterOperator)
    (value : Option Json) :
    read kind operator (value.filter (!·.isNull)) = read kind operator value := by
  have hTwice : (value.filter (!·.isNull)).filter (!·.isNull) = value.filter (!·.isNull) := by
    rw [Option.filter_filter]
    simp only [Bool.and_self]
  unfold read
  rw [hTwice]

theorem Catalog.resolveFilter_settled (f : Filter) :
    c.resolveFilter f.settled = c.resolveFilter f := by
  simp only [resolveFilter, Filter.settled, FilterValue.read_settled]

/-- No check tells a value that is null from a missing one. -/
theorem Spec.resolve_settled (spec : Spec) (maxLimit : UInt64) :
    spec.settled.resolve c maxLimit = spec.resolve c maxLimit := by
  have hFilters : spec.settled.filters.mapM c.resolveFilter =
      spec.filters.mapM c.resolveFilter := by
    rw [settled, List.mapM_map]
    exact congrArg (List.mapM · spec.filters) (funext c.resolveFilter_settled)
  have hReferenced : spec.settled.referencedEntities = spec.referencedEntities := by
    have hColumns : (spec.filters.map Filter.settled).map Filter.column =
        spec.filters.map Filter.column := List.map_map
    simp only [referencedEntities, columns, settled, axes, hColumns]
  unfold resolve
  rw [hFilters, hReferenced]
  rfl

end Settled

/-- The value of a filter that is read is not null and repeats no key. -/
theorem Filter.value_of_ofDocument? {d : Document} {f : Filter} (h : Filter.ofDocument? d = some f)
    {value : Json} (hValue : f.value = some value) : value ≠ .null ∧ value.Distinct := by
  simp only [ofDocument?, Option.bind_eq_bind, Option.bind_eq_some_iff] at h
  obtain ⟨fields, -, column, -, operator, -, read, hRead, hEq⟩ := h
  cases hEq
  cases hValue
  exact Document.distinct_of_nullable? hRead

/-- Each filter of a specification has been read by itself. -/
theorem Spec.filter_of_ofDocument? {d : Document} {spec : Spec} (h : Spec.ofDocument? d = some spec)
    {f : Filter} (hMem : f ∈ spec.filters) : ∃ d, Filter.ofDocument? d = some f := by
  simp only [ofDocument?, Option.bind_eq_bind, Option.bind_eq_some_iff] at h
  obtain ⟨fields, -, entities, -, dimensions, -, columnDimensions, -, measures, -, filters,
    hFilters, sorts, -, relationship, -, limit, -, hEq⟩ := h
  cases hEq
  exact Document.read_of_mem hFilters hMem

/-- A filter that has been read has no null value. -/
theorem Filter.settled_of_ofDocument? {d : Document} {f : Filter}
    (h : Filter.ofDocument? d = some f) : f.settled = f := by
  have hValue : f.value.filter (!·.isNull) = f.value := by
    cases hGiven : f.value with
    | none => rfl
    | some value =>
        have hNull := (Filter.value_of_ofDocument? h hGiven).1
        apply Option.filter_some_pos
        cases value <;> first | rfl | contradiction
  rw [settled, hValue]

/-- A specification that was read has nothing to settle. -/
theorem Spec.settled_of_ofDocument? {d : Document} {spec : Spec}
    (h : Spec.ofDocument? d = some spec) : spec.settled = spec := by
  have hFilter (f : Filter) (hMem : f ∈ spec.filters) : f.settled = f := by
    obtain ⟨d, hRead⟩ := Spec.filter_of_ofDocument? h hMem
    exact Filter.settled_of_ofDocument? hRead
  have hFilters : spec.filters.map Filter.settled = spec.filters := by
    rw [List.map_congr_left hFilter, List.map_id']
  rw [settled, hFilters]

/-- The specification of a document comes back when it is written and read. -/
theorem Spec.ofJson?_toJson_of_read {d : Document} {spec : Spec}
    (h : Spec.ofDocument? d = some spec) : Spec.ofJson? spec.toJson = some spec := by
  have hDistinct : ∀ f ∈ spec.filters, ∀ value, f.value = some value → value.Distinct := by
    intro f hMem value hValue
    obtain ⟨d, hRead⟩ := Spec.filter_of_ofDocument? h hMem
    exact (Filter.value_of_ofDocument? hRead hValue).2
  rw [spec.ofJson?_toJson hDistinct, Spec.settled_of_ofDocument? h]

/-- Specifications survive being written and read. One that was read comes back as it is, in
whatever form it was given. One that was put together comes back without the filter values that are
null, and is accepted or rejected as before. -/
theorem spec_round_trip :
    (∀ value spec, Spec.ofJson? value = some spec → Spec.ofJson? spec.toJson = some spec) ∧
    (∀ text spec, Spec.ofText? text = some spec → Spec.ofJson? spec.toJson = some spec) ∧
    ∀ spec : Spec, (∀ f ∈ spec.filters, ∀ value, f.value = some value → value.Distinct) →
      Spec.ofJson? spec.toJson = some spec.settled ∧
      ∀ c maxLimit, spec.settled.resolve c maxLimit = spec.resolve c maxLimit := by
  refine ⟨fun value spec hRead => Spec.ofJson?_toJson_of_read hRead, fun text spec hRead => ?_,
    fun spec hDistinct => ?_⟩
  · obtain ⟨d, -, hDescribes⟩ := Option.bind_eq_some_iff.mp hRead
    exact Spec.ofJson?_toJson_of_read hDescribes
  · exact ⟨spec.ofJson?_toJson hDistinct, fun c maxLimit => spec.resolve_settled c maxLimit⟩

/-- The reasons of returns, as a list of positions: no entities, and one dimension with its
column. -/
def Json.reasonsByPosition : Json :=
  .list [.list [],
    .list [.list [.text "", .list [.text "returns", .text "reason"], .text "reason"]]]

/-- A filter with a null value, and one with a value that no operator takes. -/
def Spec.filteredByNull : Spec where
  filters := [
    ⟨{ entity := "returns", field := "reason" }, .isNull, some .null⟩,
    ⟨{ entity := "returns", field := "reason" }, .isIn,
      some (.object [("a", .null), ("b", .int 1)])⟩]

/-- A list of positions is read back; a filter value that no operator takes is kept. -/
theorem spec_round_trip_reasons :
    (∃ spec, Spec.ofJson? Json.reasonsByPosition = some spec ∧
      spec.axes.map Dimension.key = ["reason"] ∧ Spec.ofJson? spec.toJson = some spec) ∧
    ∃ spec, Spec.ofJson? Spec.filteredByNull.toJson = some spec ∧
      spec.filters.map Filter.value = [none, some (.object [("a", .null), ("b", .int 1)])] := by
  have hDistinct : ∀ f ∈ Spec.filteredByNull.filters, ∀ value, f.value = some value →
      value.Distinct := by
    have hValue : (Json.object [("a", .null), ("b", .int 1)]).Distinct := by
      refine .object (by decide) fun field hMem => ?_
      rcases List.mem_pair.mp hMem with rfl | rfl
      · exact .null
      · exact .number _
    intro f hMem value hGiven
    rcases List.mem_pair.mp hMem with rfl | rfl <;> cases hGiven
    · exact .null
    · exact hValue
  exact ⟨⟨_, rfl, rfl, spec_round_trip.1 Json.reasonsByPosition _ rfl⟩,
    ⟨_, (spec_round_trip.2.2 _ hDistinct).1, rfl⟩⟩

end Crosstab
