import Crosstab.Plan.Resolve
import Crosstab.Proofs.Except
import Crosstab.Proofs.Keyed

/-!
What an accepted specification has passed. Each part is described once by what its acceptance
amounts to, and all that is known of plans follows from these descriptions.
-/

namespace Crosstab

/-- Keys pass if none is blank and none is repeated. -/
theorem checkKeys_eq_ok {seen keys : List String} : checkKeys seen keys = .ok () ↔
    (∀ key ∈ keys, ¬Text.isBlankText key) ∧ keys.Nodup ∧ ∀ key ∈ keys, key ∉ seen := by
  induction keys generalizing seen with
  | nil => simp [checkKeys]
  | cons key keys ih =>
      unfold checkKeys
      split
      next hBlank => simp [hBlank]
      next hBlank =>
        split
        next hSeen => simp [List.contains_iff_mem.mp hSeen]
        next hSeen =>
          have hNew : key ∉ seen := fun hMem => hSeen (List.contains_iff_mem.mpr hMem)
          simp only [ih, List.forall_mem_cons, List.nodup_cons]
          constructor
          · rintro ⟨hKeys, hNodup, hApart⟩
            exact ⟨⟨hBlank, hKeys⟩, ⟨fun hMem => hApart key hMem List.mem_cons_self, hNodup⟩, hNew,
              fun other hMem hTaken => hApart other hMem (List.mem_cons_of_mem _ hTaken)⟩
          · rintro ⟨⟨-, hKeys⟩, ⟨hKey, hNodup⟩, -, hApart⟩
            refine ⟨hKeys, hNodup, ?_⟩
            intro other hMem hTaken
            rcases List.mem_cons.mp hTaken with rfl | hOld
            · exact hKey hMem
            · exact hApart other hMem hOld

namespace Relationship

/-- A relationship written from the side of an entity. -/
def seenFrom (r : Relationship) (entity : String) : Relationship :=
  if r.leftEntity = entity then r else r.reversed

/-- A relationship seen from one of its entities has it on the left. -/
theorem seenFrom_left {r : Relationship} {entity : String} (h : r.touches entity) :
    (r.seenFrom entity).leftEntity = entity := by
  unfold seenFrom
  split
  next hLeft => exact hLeft
  next hLeft =>
    have hSides : r.leftEntity = entity ∨ r.rightEntity = entity := by simpa [touches] using h
    exact hSides.resolve_left hLeft

end Relationship

namespace Catalog

variable {c : Catalog}

/-- A column is resolved to the entry of its field, if its entity is listed. -/
theorem resolveColumn_eq_ok {column entry : Column} : c.resolveColumn column = .ok entry ↔
    c.hasEntity column.entity ∧ c.column? column.entity column.field = some entry := by
  unfold resolveColumn
  cases c.hasEntity column.entity <;> cases c.column? column.entity column.field <;> simp

/-- A planned axis keeps the key and has the column of the catalog. -/
theorem resolveAxis_eq_ok {axis : Dimension} {planned : PlannedAxis} :
    c.resolveAxis axis = .ok planned ↔
      planned.key = axis.key ∧ c.resolveColumn axis.column = .ok planned.column := by
  rw [resolveAxis, map_eq_ok]
  constructor
  · rintro ⟨column, hColumn, rfl⟩
    exact ⟨rfl, hColumn⟩
  · rintro ⟨hKey, hColumn⟩
    exact ⟨_, hColumn, by rw [← hKey]⟩

/-- A planned measure keeps key and aggregation, and numbers are only taken of columns that have
them. -/
theorem resolveMeasure_eq_ok {m : Measure} {planned : PlannedMeasure} :
    c.resolveMeasure m = .ok planned ↔
      planned.key = m.key ∧ planned.aggregation = m.aggregation ∧
        c.resolveColumn m.column = .ok planned.column ∧
        (m.aggregation.requiresNumeric → planned.column.isSummable) := by
  simp only [resolveMeasure, bind_eq_ok]
  constructor
  · rintro ⟨column, hColumn, hSuits⟩
    split at hSuits
    next => cases hSuits
    next hMismatch =>
      cases hSuits
      exact ⟨rfl, rfl, hColumn, by simpa using hMismatch⟩
  · rintro ⟨hKey, hAggregation, hColumn, hSuits⟩
    refine ⟨_, hColumn, ?_⟩
    rw [if_neg (by simpa using hSuits), ← hKey, ← hAggregation]

/-- A planned filter keeps its operator and has the value that is read for its column. -/
theorem resolveFilter_eq_ok {f : Filter} {planned : PlannedFilter} :
    c.resolveFilter f = .ok planned ↔
      planned.operator = f.operator ∧ c.resolveColumn f.column = .ok planned.column ∧
        FilterValue.read planned.column.kind f.operator f.value = .ok planned.value := by
  simp only [resolveFilter, bind_eq_ok]
  constructor
  · rintro ⟨column, hColumn, hValue⟩
    split at hValue
    next value hRead =>
      cases hValue
      exact ⟨rfl, hColumn, hRead⟩
    next => cases hValue
  · rintro ⟨hOperator, hColumn, hRead⟩
    exact ⟨_, hColumn, by rw [hRead, ← hOperator]⟩

/-- An order is taken as it is if its key is reported. -/
theorem resolveSort_eq_ok {keys : List String} {s planned : SortKey} :
    resolveSort keys s = .ok planned ↔ s.key ∈ keys ∧ planned = s := by
  unfold resolveSort
  split <;> simp_all [eq_comm]

/-- Conditions are accepted if both fields are listed, each for its side. -/
theorem checkPairs_eq_ok {left right : String} {pairs : List FieldPair} :
    c.checkPairs left right pairs = .ok () ↔ ∀ pair ∈ pairs,
      (c.column? left pair.leftField).isSome ∧ (c.column? right pair.rightField).isSome := by
  have hField (entity field : String) :
      (∃ u, c.checkField entity field = .ok u) ↔ (c.column? entity field).isSome := by
    unfold checkField
    split <;> simp_all
  induction pairs with
  | nil => simp [checkPairs]
  | cons pair rest ih =>
      simp only [checkPairs, bind_eq_ok, exists_and_right, hField, ih,
        List.forall_mem_cons, and_assoc]

/-- The conditions that are left are the complete ones, trimmed. -/
theorem mem_completePairs {pairs : List FieldPair} {pair : FieldPair} :
    pair ∈ completePairs pairs ↔ ∃ given ∈ pairs, given.isComplete ∧ given.trimmed = pair := by
  simp [completePairs, and_assoc]

/-- The conditions for a relationship: its own or, if it brings none, those of the catalog's
rule. -/
def pairsFor (c : Catalog) (r : Relationship) : List FieldPair :=
  completePairs (if r.pairs.isEmpty then
    ((c.joinRule? r.leftEntity r.rightEntity).map JoinRule.pairs).getD [] else r.pairs)

/-- A join is what a relationship asks for when rows are read from an entity: the relationship,
written from the side of that entity, names both sides, the kind and the conditions. -/
structure Realizes (c : Catalog) (given : Relationship) (entity : String) (join : PlannedJoin) :
    Prop where
  enabled : given.enabled
  kind : given.kind = some join.kind
  left : join.leftEntity = entity
  sides : (given.seenFrom entity).leftEntity = join.leftEntity ∧
    (given.seenFrom entity).rightEntity = join.rightEntity
  pairs : join.pairs = c.pairsFor (given.seenFrom entity)
  nonempty : join.pairs ≠ []
  fields : ∀ pair ∈ join.pairs, (c.column? join.leftEntity pair.leftField).isSome ∧
    (c.column? join.rightEntity pair.rightField).isSome

/-- What two entities need in order to be joined, and the join that results. -/
theorem resolveJoin_eq_ok {relationship : Option Relationship} {a b : String} {join : PlannedJoin} :
    c.resolveJoin relationship a b = .ok join ↔ ∃ r kind, relationship = some r ∧ r.enabled ∧
      r.connects a b ∧ r.kind = some kind ∧ kind.projectsBoth ∧
      (∀ rule, c.joinRule? r.leftEntity r.rightEntity = some rule → rule.supports kind) ∧
      completePairs r.pairs ≠ [] ∧
      c.checkPairs r.leftEntity r.rightEntity (completePairs r.pairs) = .ok () ∧
      join = ⟨r.leftEntity, r.rightEntity, kind, completePairs r.pairs⟩ := by
  cases hGiven : relationship.filter Relationship.enabled with
  | none =>
      have hDisabled (r : Relationship) : relationship = some r → ¬r.enabled := by
        rintro rfl hEnabled
        simp [hEnabled, Option.filter] at hGiven
      simp only [resolveJoin, hGiven, reduceCtorEq, false_iff]
      rintro ⟨r, -, hRelationship, hEnabled, -⟩
      exact hDisabled r hRelationship hEnabled
  | some given =>
      obtain ⟨rfl, hEnabled⟩ := Option.filter_eq_some_iff.mp hGiven
      cases hKind : given.kind with
      | none => simp [resolveJoin, hGiven, hKind, guard_eq_ok]
      | some kind =>
          have hAllowed (rule : Option JoinRule) : ¬(rule.any fun rule => !rule.supports kind) ↔
              ∀ own, rule = some own → own.supports kind := by
            cases rule <;> simp
          have hEmpty (pairs : List FieldPair) : ¬(pairs.isEmpty : Bool) ↔ pairs ≠ [] := by simp
          simp only [resolveJoin, hGiven, hKind, guard_eq_ok, bind_eq_ok, hAllowed, hEmpty,
            Bool.not_eq_true', Bool.not_eq_false]
          constructor
          · rintro ⟨hConnects, hBoth, hRule, hPairs, _, hFields, hJoin⟩
            cases hJoin
            exact ⟨given, kind, rfl, hEnabled, hConnects, hKind, hBoth, hRule, hPairs, hFields, rfl⟩
          · rintro ⟨r, kind', hSame, -, hConnects, hOwn, hBoth, hRule, hPairs, hFields, rfl⟩
            cases hSame
            cases hKind.symm.trans hOwn
            exact ⟨hConnects, hBoth, hRule, hPairs, _, hFields, rfl⟩

/-- A join over two entities reads from the left side of its relationship. -/
theorem resolveJoin_ok {relationship : Option Relationship} {a b : String} {join : PlannedJoin}
    (h : c.resolveJoin relationship a b = .ok join) :
    ((join.leftEntity = a ∧ join.rightEntity = b) ∨ (join.leftEntity = b ∧ join.rightEntity = a)) ∧
      join.kind.projectsBoth ∧
      ∃ given, relationship = some given ∧ c.Realizes given join.leftEntity join := by
  obtain ⟨given, kind, hRelationship, hEnabled, hConnects, hKind, hBoth, -, hPairs, hFields, rfl⟩ :=
    resolveJoin_eq_ok.mp h
  -- Complete pairs can only come from the relationship itself here.
  have hOwn : given.pairs.isEmpty = false := by
    cases hGivenPairs : given.pairs <;> simp_all [completePairs]
  have hSeen : given.seenFrom given.leftEntity = given := if_pos rfl
  have hSides : (given.leftEntity = a ∧ given.rightEntity = b) ∨
      (given.leftEntity = b ∧ given.rightEntity = a) := by
    simpa [Relationship.connects] using hConnects
  exact ⟨hSides, hBoth, given, hRelationship, {
    enabled := hEnabled
    kind := hKind
    left := rfl
    sides := by rw [hSeen]; exact ⟨rfl, rfl⟩
    pairs := by simp [pairsFor, hSeen, hOwn]
    nonempty := hPairs
    fields := checkPairs_eq_ok.mp hFields }⟩

/-- Four ways out for a single entity: the relationship does not apply, its other entity is not
listed, it has no conditions, or its conditions are checked. -/
theorem resolveSemiJoin_cases (c : Catalog) (relationship : Option Relationship) (entity : String) :
    ((∀ r, relationship = some r → ¬(r.enabled ∧ r.kind = some .semi ∧ r.touches entity)) ∧
      c.resolveSemiJoin relationship entity = .ok (none, [])) ∨
    ∃ given r, relationship = some given ∧ r = given.seenFrom entity ∧
      (given.enabled ∧ given.kind = some .semi ∧ given.touches entity) ∧
      ((¬c.hasEntity r.rightEntity ∧
        c.resolveSemiJoin relationship entity = .error (.spec (.unknownEntity r.rightEntity))) ∨
      (c.hasEntity r.rightEntity ∧ c.pairsFor r = [] ∧
        ∃ warning, c.resolveSemiJoin relationship entity = .ok (none, [warning])) ∨
      (c.hasEntity r.rightEntity ∧ c.pairsFor r ≠ [] ∧ c.resolveSemiJoin relationship entity =
        (c.checkPairs r.leftEntity r.rightEntity (c.pairsFor r)).map fun _ =>
          (some ⟨r.leftEntity, r.rightEntity, .semi, c.pairsFor r⟩, []))) := by
  cases relationship with
  | none => exact .inl ⟨by simp, rfl⟩
  | some given =>
      by_cases hApplies : given.enabled ∧ given.kind = some .semi ∧ given.touches entity
      · have hSeen : (if given.leftEntity = entity then given else given.reversed) =
            given.seenFrom entity := rfl
        have hPairsFor (r : Relationship) : completePairs (if r.pairs.isEmpty then
            ((c.joinRule? r.leftEntity r.rightEntity).map JoinRule.pairs).getD [] else r.pairs) =
              c.pairsFor r := rfl
        obtain ⟨hEnabled, hKind, hTouches⟩ := hApplies
        refine .inr ⟨given, _, rfl, rfl, ⟨hEnabled, hKind, hTouches⟩, ?_⟩
        simp only [resolveSemiJoin, hSeen, hPairsFor, hEnabled, hKind, hTouches]
        generalize given.seenFrom entity = r
        cases hListed : c.hasEntity r.rightEntity with
        | false => exact .inl ⟨by simp, rfl⟩
        | true =>
            cases hPairs : c.pairsFor r with
            | nil => exact .inr (.inl ⟨rfl, rfl, _, rfl⟩)
            | cons pair pairs =>
                refine .inr (.inr ⟨rfl, by simp, ?_⟩)
                cases c.checkPairs r.leftEntity r.rightEntity (pair :: pairs) <;> rfl
      · refine .inl ⟨by simpa using hApplies, ?_⟩
        have hIgnored : (!given.enabled || given.kind ≠ some .semi || !given.touches entity) =
            true := by
          by_contra hAll
          exact hApplies (by simpa [and_assoc] using hAll)
        simp only [resolveSemiJoin, if_pos hIgnored]
        rfl

/-- A relationship over a single entity is ignored or keeps the rows that have a match. -/
theorem resolveSemiJoin_ok {relationship : Option Relationship} {entity : String}
    {outcome : Option PlannedJoin × List String}
    (h : c.resolveSemiJoin relationship entity = .ok outcome) : outcome.1 = none ∨
      ∃ given join, relationship = some given ∧ outcome = (some join, []) ∧ join.kind = .semi ∧
        c.Realizes given entity join := by
  rcases c.resolveSemiJoin_cases relationship entity with ⟨-, hOutcome⟩ |
    ⟨given, r, rfl, rfl, hApplies, ⟨-, hOutcome⟩ | ⟨-, -, _, hOutcome⟩ | ⟨-, hPairs, hOutcome⟩⟩
  · cases h.symm.trans hOutcome
    exact .inl rfl
  · cases h.symm.trans hOutcome
  · cases h.symm.trans hOutcome
    exact .inl rfl
  · obtain ⟨_, hFields, rfl⟩ := map_eq_ok.mp (hOutcome.symm.trans h)
    exact .inr ⟨given, _, rfl, rfl, rfl, {
      enabled := hApplies.1
      kind := hApplies.2.1
      left := Relationship.seenFrom_left hApplies.2.2
      sides := ⟨rfl, rfl⟩
      pairs := rfl
      nonempty := hPairs
      fields := checkPairs_eq_ok.mp hFields }⟩

/-- Rows are read from the only entity, perhaps narrowed by the relationship, or from the left one
of two that the relationship joins. -/
theorem resolveEntities_cases {relationship : Option Relationship} {entities : List String}
    {anchor : String} {join : Option PlannedJoin} {warnings : List String}
    (h : c.resolveEntities relationship entities = .ok (anchor, join, warnings)) :
    (entities = [anchor] ∧ ∀ planned, join = some planned → planned.kind = .semi ∧
      ∃ given, relationship = some given ∧ c.Realizes given anchor planned) ∨
    ∃ a b planned, entities = [a, b] ∧ join = some planned ∧
      ((anchor = a ∧ planned.rightEntity = b) ∨ (anchor = b ∧ planned.rightEntity = a)) ∧
      planned.kind.projectsBoth ∧
      ∃ given, relationship = some given ∧ c.Realizes given anchor planned := by
  match entities with
  | [] => simp [resolveEntities] at h
  | [entity] =>
      simp only [resolveEntities, bind_eq_ok] at h
      obtain ⟨outcome, hSemi, hEq⟩ := h
      cases hEq
      refine .inl ⟨rfl, fun planned hJoin => ?_⟩
      rcases resolveSemiJoin_ok hSemi with hNone | ⟨given, semi, hGiven, hOutcome, hKind, hRealizes⟩
      · simp [hNone] at hJoin
      · obtain rfl : semi = planned := by simpa [hOutcome] using hJoin
        exact ⟨hKind, given, hGiven, hRealizes⟩
  | [a, b] =>
      simp only [resolveEntities, bind_eq_ok] at h
      obtain ⟨planned, hJoin, hEq⟩ := h
      cases hEq
      obtain ⟨hSides, hBoth, hGiven⟩ := resolveJoin_ok hJoin
      exact .inr ⟨a, b, planned, rfl, rfl, hSides, hBoth, hGiven⟩
  | _ :: _ :: _ :: _ => simp [resolveEntities] at h

/-- Rows are read from one of the entities. Each other one is the right side of a join that projects
both, and every join realizes the relationship. -/
theorem resolveEntities_ok {relationship : Option Relationship} {entities : List String}
    {anchor : String} {join : Option PlannedJoin} {warnings : List String}
    (h : c.resolveEntities relationship entities = .ok (anchor, join, warnings)) :
    anchor ∈ entities ∧
      (∀ planned, join = some planned →
        ∃ given, relationship = some given ∧ c.Realizes given anchor planned) ∧
      ∀ entity ∈ entities, entity ≠ anchor → ∃ planned, join = some planned ∧
        planned.kind.projectsBoth ∧ planned.rightEntity = entity := by
  rcases resolveEntities_cases h with ⟨rfl, hSemi⟩ | ⟨a, b, joined, rfl, rfl, hSides, hBoth, hGiven⟩
  · exact ⟨by simp, fun planned hJoin => (hSemi planned hJoin).2, by simp⟩
  · refine ⟨?_, fun planned hJoin => Option.some.inj hJoin ▸ hGiven, ?_⟩
    · rcases hSides with ⟨rfl, -⟩ | ⟨rfl, -⟩ <;> simp
    · intro entity hMem hOther
      have hEither : entity = a ∨ entity = b := by simpa using hMem
      refine ⟨joined, rfl, hBoth, ?_⟩
      rcases hSides with ⟨rfl, hRight⟩ | ⟨rfl, hRight⟩
      · exact hRight.trans (hEither.resolve_left hOther).symm
      · exact hRight.trans (hEither.resolve_right hOther).symm

end Catalog

namespace Spec

/-- What is known of the plan for an accepted specification. -/
structure ResolvesTo (spec : Spec) (c : Catalog) (maxLimit : UInt64) (plan : Plan) : Prop where
  limited : spec.limit ≠ 0
  projects : spec.axes ≠ [] ∨ spec.measures ≠ []
  keys : checkKeys [] spec.keys = .ok ()
  entities : c.checkEntities spec.entities = .ok ()
  dimensions : List.Forall₂ (fun d planned => c.resolveAxis d = .ok planned) spec.dimensions
    plan.dimensions
  columnDimensions : List.Forall₂ (fun d planned => c.resolveAxis d = .ok planned)
    spec.columnDimensions plan.columnDimensions
  measures : List.Forall₂ (fun m planned => c.resolveMeasure m = .ok planned) spec.measures
    plan.measures
  filters :
    List.Forall₂ (fun f planned => c.resolveFilter f = .ok planned) spec.filters plan.filters
  sorts : List.Forall₂ (fun s planned => Catalog.resolveSort spec.keys s = .ok planned) spec.sorts
    plan.sorts
  combined : ∃ warnings, c.resolveEntities spec.relationship spec.referencedEntities =
    .ok (plan.anchor, plan.join, warnings) ∧
      plan.warnings = warnings ++ limitWarnings spec.limit maxLimit
  referenced : plan.referencedEntities = spec.referencedEntities
  limit : plan.limit = min spec.limit maxLimit

/-- An accepted specification, taken apart into what each check has found. -/
theorem resolve_ok {spec : Spec} {c : Catalog} {maxLimit : UInt64} {plan : Plan}
    (h : spec.resolve c maxLimit = .ok plan) : spec.ResolvesTo c maxLimit plan := by
  simp only [resolve, guard_eq_ok, bind_eq_ok, pure, Except.pure, Except.ok.injEq, mapM_eq_ok] at h
  obtain ⟨hLimit, hProjects, _, hKeys, _, hEntities, dimensions, hDimensions, columnDimensions,
    hColumnDimensions, measures, hMeasures, filters, hFilters, sorts, hSorts, combined, hCombined,
    rfl⟩ := h
  exact {
    limited := hLimit
    projects := by simpa [or_iff_not_imp_left] using hProjects
    keys := hKeys
    entities := hEntities
    dimensions := hDimensions
    columnDimensions := hColumnDimensions
    measures := hMeasures
    filters := hFilters
    sorts := hSorts
    combined := ⟨combined.2.2, hCombined, rfl⟩
    referenced := rfl
    limit := rfl }

/-- Row axes and column axes are resolved alike. -/
theorem ResolvesTo.axes {spec : Spec} {c : Catalog} {maxLimit : UInt64} {plan : Plan}
    (h : spec.ResolvesTo c maxLimit plan) :
    List.Forall₂ (fun d planned => c.resolveAxis d = .ok planned) spec.axes plan.axes :=
  List.rel_append h.dimensions h.columnDimensions

/-- Row axes keep their keys. -/
theorem ResolvesTo.dimensionKeys {spec : Spec} {c : Catalog} {maxLimit : UInt64} {plan : Plan}
    (h : spec.ResolvesTo c maxLimit plan) :
    plan.dimensions.map PlannedAxis.key = spec.dimensions.map Dimension.key :=
  map_eq_of_forall₂ h.dimensions fun _ _ hAxis => (Catalog.resolveAxis_eq_ok.mp hAxis).1

/-- Column axes keep their keys. -/
theorem ResolvesTo.columnKeys {spec : Spec} {c : Catalog} {maxLimit : UInt64} {plan : Plan}
    (h : spec.ResolvesTo c maxLimit plan) :
    plan.columnDimensions.map PlannedAxis.key = spec.columnDimensions.map Dimension.key :=
  map_eq_of_forall₂ h.columnDimensions fun _ _ hAxis => (Catalog.resolveAxis_eq_ok.mp hAxis).1

/-- Measures keep their keys. -/
theorem ResolvesTo.measureKeys {spec : Spec} {c : Catalog} {maxLimit : UInt64} {plan : Plan}
    (h : spec.ResolvesTo c maxLimit plan) :
    plan.measures.map PlannedMeasure.key = spec.measures.map Measure.key :=
  map_eq_of_forall₂ h.measures fun _ _ hMeasure => (Catalog.resolveMeasure_eq_ok.mp hMeasure).1

/-- A plan reports under the keys of its specification. -/
theorem ResolvesTo.keys_eq {spec : Spec} {c : Catalog} {maxLimit : UInt64} {plan : Plan}
    (h : spec.ResolvesTo c maxLimit plan) : plan.keys = spec.keys := by
  calc plan.keys
    _ = plan.dimensions.map PlannedAxis.key ++ plan.columnDimensions.map PlannedAxis.key ++
          plan.measures.map PlannedMeasure.key := by rw [Plan.keys, Plan.axes, List.map_append]
    _ = spec.dimensions.map Dimension.key ++ spec.columnDimensions.map Dimension.key ++
          spec.measures.map Measure.key := by rw [h.dimensionKeys, h.columnKeys, h.measureKeys]
    _ = spec.keys := by rw [Spec.keys, Spec.axes, List.map_append]

/-- No key is reported twice. -/
theorem ResolvesTo.nodup_keys {spec : Spec} {c : Catalog} {maxLimit : UInt64} {plan : Plan}
    (h : spec.ResolvesTo c maxLimit plan) : plan.keys.Nodup := by
  rw [h.keys_eq]
  exact (checkKeys_eq_ok.mp h.keys).2.1

/-- Orders are by keys that are reported. -/
theorem ResolvesTo.sort_mem {spec : Spec} {c : Catalog} {maxLimit : UInt64} {plan : Plan}
    (h : spec.ResolvesTo c maxLimit plan) {s : SortKey} (hMem : s ∈ plan.sorts) :
    s.key ∈ plan.keys := by
  obtain ⟨given, -, hSort⟩ := exists_of_forall₂_right h.sorts hMem
  obtain ⟨hKey, rfl⟩ := Catalog.resolveSort_eq_ok.mp hSort
  exact h.keys_eq ▸ hKey

/-- A planned join comes from a relationship of the specification. -/
theorem ResolvesTo.realizes {spec : Spec} {c : Catalog} {maxLimit : UInt64} {plan : Plan}
    (h : spec.ResolvesTo c maxLimit plan) {join : PlannedJoin} (hJoin : plan.join = some join) :
    ∃ given, spec.relationship = some given ∧ c.Realizes given plan.anchor join := by
  obtain ⟨warnings, hCombined, -⟩ := h.combined
  exact (Catalog.resolveEntities_ok hCombined).2.1 join hJoin

theorem mem_referencedEntities {spec : Spec} {column : Column} (h : column ∈ spec.columns) :
    column.entity ∈ spec.referencedEntities :=
  Keyed.mem_distinct.mpr (List.mem_map_of_mem h)

end Spec

end Crosstab
