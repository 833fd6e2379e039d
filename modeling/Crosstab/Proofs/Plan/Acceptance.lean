import Crosstab.Proofs.Plan.Relationship
import Crosstab.Proofs.Plan.Sound
import Crosstab.Proofs.Plan.ValueFault
import Mathlib.Data.List.Duplicate

/-!
Which specifications are accepted. What a specification has to satisfy is written down without
regard to the order in which it is checked; the checks accept just the specifications that satisfy
it, and whatever they report is true of the specification and stands in the way of its acceptance.
-/

namespace Crosstab

open Crosstab.Text

namespace Spec

/-- The fields that are named by the conditions of the relationship: by its own conditions if it
joins two entities, and by those it narrows with if there is only one. -/
inductive Relates (spec : Spec) (c : Catalog) : String → String → Prop
  | joining {a b entity field : String} {r : Relationship} (hTwo : spec.referencedEntities = [a, b])
      (hGiven : spec.relationship = some r)
      (hField : NamesField r.leftEntity r.rightEntity r.pairs entity field) :
      Relates spec c entity field
  | narrowing {anchor entity field : String} {r : Relationship}
      (hOne : spec.referencedEntities = [anchor]) (hGiven : spec.relationship = some r)
      (hNarrows : r.Narrows anchor) (hField : r.Names c entity field) : Relates spec c entity field

/-- The entity in which the rows of the only entity have to have a match. -/
def Matches (spec : Spec) (other : String) : Prop :=
  ∃ anchor r, spec.referencedEntities = [anchor] ∧ spec.relationship = some r ∧ r.Narrows anchor ∧
    r.Between anchor other

/-- What a specification has to satisfy. -/
structure Acceptable (spec : Spec) (c : Catalog) : Prop where
  limit : 0 < spec.limit
  projects : spec.axes ≠ [] ∨ spec.measures ≠ []
  keysGiven : ∀ key ∈ spec.keys, ¬isBlankText key
  keysDistinct : spec.keys.Nodup
  entities : ∀ entity ∈ spec.entities, c.hasEntity entity
  columns : ∀ column ∈ spec.columns,
    c.hasEntity column.entity ∧ (c.column? column.entity column.field).isSome
  measures : ∀ m ∈ spec.measures, m.aggregation ∈ [.sum, .avg, .min, .max] →
    ∀ entry, c.column? m.column.entity m.column.field = some entry →
      entry.kind = .numeric ∧ entry.aggregatable
  filters : ∀ f ∈ spec.filters, ∀ entry, c.column? f.column.entity f.column.field = some entry →
    ∃ value, FilterValue.Reads entry.kind f.operator f.value value
  sorts : ∀ s ∈ spec.sorts, s.key ∈ spec.keys
  count : spec.referencedEntities.length ≤ 2
  combined : ∀ a b, spec.referencedEntities = [a, b] →
    ∃ r, spec.relationship = some r ∧ r.Combines c a b
  matched : ∀ other, spec.Matches other → c.hasEntity other
  related : ∀ entity field, spec.Relates c entity field → (c.column? entity field).isSome

end Spec

/-- What it means that a specification has a fault. -/
def SpecFault.Blames (spec : Spec) (c : Catalog) : SpecFault → Prop
  | .unknownEntity entity => ¬c.hasEntity entity ∧
      (entity ∈ spec.entities ∨ (∃ column ∈ spec.columns, column.entity = entity) ∨
        spec.Matches entity)
  | .unknownField entity field => c.column? entity field = none ∧
      ((∃ column ∈ spec.columns, column.entity = entity ∧ column.field = field) ∨
        spec.Relates c entity field)
  | .duplicateKey key => List.Duplicate key spec.keys
  | .emptyKey => ∃ key ∈ spec.keys, isBlankText key
  | .unknownSortKey key => key ∉ spec.keys ∧ ∃ s ∈ spec.sorts, s.key = key
  | .aggregationMismatch aggregation entity field kind => ∃ m ∈ spec.measures, ∃ entry,
      m.aggregation = aggregation ∧ m.column.entity = entity ∧ m.column.field = field ∧
      aggregation ∈ [.sum, .avg, .min, .max] ∧ c.column? entity field = some entry ∧
      entry.kind = kind ∧ ¬(entry.kind = .numeric ∧ entry.aggregatable)
  | .invalidValue entity field operator fault => ∃ f ∈ spec.filters, ∃ entry,
      f.operator = operator ∧ f.column.entity = entity ∧ f.column.field = field ∧
      c.column? entity field = some entry ∧ fault.Blames entry.kind operator f.value
  | .invalidLimit limit => limit = 0 ∧ spec.limit = limit
  | .emptyProjection => spec.axes = [] ∧ spec.measures = []
  | .tooManyEntities count => 2 < count ∧ spec.referencedEntities.length = count

/-- What it means that a specification is rejected for a reason. -/
def Rejection.Blames (spec : Spec) (c : Catalog) : Rejection → Prop
  | .spec fault => fault.Blames spec c
  | .join fault => ∃ a b, spec.referencedEntities = [a, b] ∧ fault.Blames c spec.relationship a b

/-- What a specification is blamed for is something that it should satisfy and does not. -/
theorem SpecFault.Blames.not_acceptable {spec : Spec} {c : Catalog} {fault : SpecFault}
    (h : fault.Blames spec c) : ¬spec.Acceptable c := by
  intro hAll
  cases fault with
  | unknownEntity entity =>
      obtain ⟨hUnlisted, hDeclared | ⟨column, hMem, rfl⟩ | hMatches⟩ := h
      · exact hUnlisted (hAll.entities entity hDeclared)
      · exact hUnlisted (hAll.columns column hMem).1
      · exact hUnlisted (hAll.matched entity hMatches)
  | unknownField entity field =>
      obtain ⟨hMissing, hNamed⟩ := h
      have hFound : (c.column? entity field).isSome := by
        rcases hNamed with ⟨column, hMem, rfl, rfl⟩ | hRelates
        · exact (hAll.columns column hMem).2
        · exact hAll.related entity field hRelates
      simp [hMissing] at hFound
  | duplicateKey key => exact List.nodup_iff_forall_not_duplicate.mp hAll.keysDistinct key h
  | emptyKey =>
      obtain ⟨key, hMem, hBlank⟩ := h
      exact hAll.keysGiven key hMem hBlank
  | unknownSortKey key =>
      obtain ⟨hUnknown, s, hMem, rfl⟩ := h
      exact hUnknown (hAll.sorts s hMem)
  | aggregationMismatch =>
      obtain ⟨m, hMem, entry, rfl, rfl, rfl, hNumeric, hEntry, -, hUnfit⟩ := h
      exact hUnfit (hAll.measures m hMem hNumeric entry hEntry)
  | invalidValue =>
      obtain ⟨f, hMem, entry, rfl, rfl, rfl, hEntry, hFault⟩ := h
      obtain ⟨value, hReads⟩ := hAll.filters f hMem entry hEntry
      exact hFault.not_reads hReads
  | invalidLimit =>
      obtain ⟨rfl, hZero⟩ := h
      have hPositive := hAll.limit
      rw [hZero] at hPositive
      exact absurd hPositive (by decide)
  | emptyProjection => exact hAll.projects.elim (fun hAxes => hAxes h.1) fun hNone => hNone h.2
  | tooManyEntities =>
      obtain ⟨hMany, rfl⟩ := h
      exact absurd hAll.count (by omega)

/-- No acceptable specification is blamed for anything. -/
theorem Rejection.Blames.not_acceptable {spec : Spec} {c : Catalog} {rejection : Rejection}
    (h : rejection.Blames spec c) : ¬spec.Acceptable c := by
  cases rejection with
  | spec fault => exact SpecFault.Blames.not_acceptable h
  | join fault =>
      obtain ⟨a, b, hTwo, hFault⟩ := h
      intro hAll
      obtain ⟨r, hGiven, hCombines⟩ := hAll.combined a b hTwo
      rw [hGiven] at hFault
      exact hFault.not_combines hCombines

/-- All aggregations but counts need numbers. -/
theorem Aggregation.mem_of_requiresNumeric {a : Aggregation} (h : a.requiresNumeric) :
    a ∈ [.sum, .avg, .min, .max] := by
  cases a <;> first | simp; done | cases h

/-- Keys are refused for a blank one, or for one that stands twice. -/
theorem checkKeys_eq_error {seen keys : List String} {e : Rejection}
    (h : checkKeys seen keys = .error e) :
    ((∃ key ∈ keys, isBlankText key) ∧ e = .spec .emptyKey) ∨
      ∃ key, (List.Duplicate key keys ∨ key ∈ seen ∧ key ∈ keys) ∧
        e = .spec (.duplicateKey key) := by
  induction keys generalizing seen with
  | nil => cases h
  | cons key keys ih =>
      unfold checkKeys at h
      split at h
      next hBlank =>
        cases h
        exact .inl ⟨⟨key, List.mem_cons_self, hBlank⟩, rfl⟩
      next =>
        split at h
        next hSeen =>
          cases h
          exact .inr ⟨key, .inr ⟨List.contains_iff_mem.mp hSeen, List.mem_cons_self⟩, rfl⟩
        next =>
          rcases ih h with ⟨⟨other, hMem, hBlank⟩, rfl⟩ | ⟨other, hTwice, rfl⟩
          · exact .inl ⟨⟨other, List.mem_cons_of_mem _ hMem, hBlank⟩, rfl⟩
          · refine .inr ⟨other, ?_, rfl⟩
            rcases hTwice with hDuplicate | ⟨hTaken, hMem⟩
            · exact .inl (hDuplicate.cons_duplicate)
            · rcases List.mem_cons.mp hTaken with rfl | hSeen
              · exact .inl hMem.duplicate_cons_self
              · exact .inr ⟨hSeen, List.mem_cons_of_mem _ hMem⟩

namespace Catalog

variable {c : Catalog} {e : Rejection}

theorem checkEntities_eq_ok {entities : List String} : c.checkEntities entities = .ok () ↔
    ∀ entity ∈ entities, c.hasEntity entity := by
  unfold checkEntities
  cases hFind : entities.find? fun entity => !c.hasEntity entity with
  | none => simpa using hFind
  | some entity =>
      have hUnlisted : ¬c.hasEntity entity := by simpa using List.find?_some hFind
      simp only [reduceCtorEq, false_iff]
      exact fun hAll => hUnlisted (hAll entity (List.mem_of_find?_eq_some hFind))

/-- Declared entities are refused for one that is not listed. -/
theorem checkEntities_eq_error {entities : List String} (h : c.checkEntities entities = .error e) :
    ∃ entity ∈ entities, ¬c.hasEntity entity ∧ e = .spec (.unknownEntity entity) := by
  unfold checkEntities at h
  cases hFind : entities.find? fun entity => !c.hasEntity entity with
  | none =>
      rw [hFind] at h
      cases h
  | some entity =>
      rw [hFind] at h
      cases h
      exact ⟨entity, List.mem_of_find?_eq_some hFind, by simpa using List.find?_some hFind, rfl⟩

/-- A column is refused for its entity or, if that is listed, for its field. -/
theorem resolveColumn_eq_error {column : Column} (h : c.resolveColumn column = .error e) :
    (¬c.hasEntity column.entity ∧ e = .spec (.unknownEntity column.entity)) ∨
      (c.column? column.entity column.field = none ∧
        e = .spec (.unknownField column.entity column.field)) := by
  unfold resolveColumn at h
  split at h
  · split at h <;> cases h
    next hMissing => exact .inr ⟨hMissing, rfl⟩
  next hUnlisted =>
    cases h
    exact .inl ⟨hUnlisted, rfl⟩

/-- A column that is refused is one that a specification is blamed for. -/
theorem blames_of_resolveColumn {spec : Spec} {column : Column} (hMem : column ∈ spec.columns)
    (h : c.resolveColumn column = .error e) : e.Blames spec c := by
  rcases resolveColumn_eq_error h with ⟨hUnlisted, rfl⟩ | ⟨hMissing, rfl⟩
  · exact ⟨hUnlisted, .inr (.inl ⟨column, hMem, rfl⟩)⟩
  · exact ⟨hMissing, .inl ⟨column, hMem, rfl, rfl⟩⟩

/-- A measure that is refused has the fault that is reported. -/
theorem blames_of_resolveMeasure {spec : Spec} {m : Measure} (hOwns : c.OwnsColumns)
    (hMem : m ∈ spec.measures) (h : c.resolveMeasure m = .error e) : e.Blames spec c := by
  simp only [resolveMeasure, bind_eq_error] at h
  rcases h with hColumn | ⟨entry, hColumn, hUnfit⟩
  · refine blames_of_resolveColumn ?_ hColumn
    simp only [Spec.columns, List.mem_append, List.mem_map]
    exact .inl (.inr ⟨m, hMem, rfl⟩)
  · split at hUnfit
    next hMismatch =>
      cases hUnfit
      have hEntry := (resolveColumn_eq_ok.mp hColumn).2
      obtain ⟨hEntity, hField⟩ := hOwns.of_column? hEntry
      obtain ⟨hNumeric, hSummable⟩ : m.aggregation.requiresNumeric ∧ ¬entry.isSummable := by
        simpa using hMismatch
      have hAggregation := m.aggregation.mem_of_requiresNumeric hNumeric
      rw [Column.isSummable] at hSummable
      rw [hEntity, hField]
      exact ⟨m, hMem, entry, rfl, rfl, rfl, hAggregation, hEntry, rfl, by simpa using hSummable⟩
    next => cases hUnfit

/-- A filter that is refused has the fault that is reported. -/
theorem blames_of_resolveFilter {spec : Spec} {f : Filter} (hOwns : c.OwnsColumns)
    (hMem : f ∈ spec.filters) (h : c.resolveFilter f = .error e) : e.Blames spec c := by
  simp only [resolveFilter, bind_eq_error] at h
  rcases h with hColumn | ⟨entry, hColumn, hValue⟩
  · refine blames_of_resolveColumn ?_ hColumn
    simp only [Spec.columns, List.mem_append, List.mem_map]
    exact .inr ⟨f, hMem, rfl⟩
  · split at hValue
    next => cases hValue
    next fault hRead =>
      cases hValue
      have hEntry := (resolveColumn_eq_ok.mp hColumn).2
      obtain ⟨hEntity, hField⟩ := hOwns.of_column? hEntry
      have hBlames := FilterValue.blames_of_read hRead
      rw [hEntity, hField]
      exact ⟨f, hMem, entry, rfl, rfl, rfl, hEntry, hBlames⟩

/-- The way in which entities are combined is refused for a fault of the relationship, or because
there are none or too many. -/
theorem blames_of_resolveEntities {spec : Spec}
    (h : c.resolveEntities spec.relationship spec.referencedEntities = .error e) :
    e.Blames spec c := by
  match hEntities : spec.referencedEntities with
  | [] =>
      rw [hEntities] at h
      cases h
      have hNone : spec.columns = [] := by
        rw [List.eq_nil_iff_forall_not_mem]
        intro column hMem
        simpa [hEntities] using Spec.mem_referencedEntities hMem
      obtain ⟨⟨hAxes, hMeasures⟩, -⟩ : (spec.axes = [] ∧ spec.measures = []) ∧
          spec.filters = [] := by
        simpa only [Spec.columns, List.append_eq_nil_iff, List.map_eq_nil_iff] using hNone
      exact ⟨hAxes, hMeasures⟩
  | [anchor] =>
      simp only [hEntities, resolveEntities, bind_eq_error] at h
      rcases h with hSemi | ⟨_, -, hNever⟩
      · obtain ⟨r, hGiven, hNarrows, hWhy⟩ := blames_of_resolveSemiJoin hSemi
        rcases hWhy with ⟨other, hBetween, hUnlisted, rfl⟩ | ⟨entity, field, hNames, hMissing, rfl⟩
        · exact ⟨hUnlisted, .inr (.inr ⟨anchor, r, hEntities, hGiven, hNarrows, hBetween⟩)⟩
        · exact ⟨hMissing, .inr (.narrowing hEntities hGiven hNarrows hNames)⟩
      · cases hNever
  | [a, b] =>
      simp only [hEntities, resolveEntities, bind_eq_error] at h
      rcases h with hJoin | ⟨_, -, hNever⟩
      · rcases blames_of_resolveJoin hJoin with ⟨fault, rfl, hFault⟩ | ⟨r, entity, field, hWhy⟩
        · exact ⟨a, b, hEntities, hFault⟩
        · obtain ⟨hGiven, hNames, hMissing, rfl⟩ := hWhy
          exact ⟨hMissing, .inr (.joining hEntities hGiven hNames)⟩
      · cases hNever
  | _ :: _ :: _ :: rest =>
      rw [hEntities] at h
      cases h
      exact ⟨by simp, by rw [hEntities]⟩

/-- Entities that can be read are at most two, combined by their relationship, and all that the
relationship names is in the catalog. -/
theorem combined_of_resolveEntities {spec : Spec}
    {outcome : String × Option PlannedJoin × List String}
    (h : c.resolveEntities spec.relationship spec.referencedEntities = .ok outcome) :
    spec.referencedEntities.length ≤ 2 ∧
      (∀ a b, spec.referencedEntities = [a, b] →
        ∃ r, spec.relationship = some r ∧ r.Combines c a b) ∧
      (∀ other, spec.Matches other → c.hasEntity other) ∧
      ∀ entity field, spec.Relates c entity field → (c.column? entity field).isSome := by
  match hEntities : spec.referencedEntities with
  | [] =>
      rw [hEntities] at h
      cases h
  | [anchor] =>
      simp only [hEntities, resolveEntities, bind_eq_ok] at h
      obtain ⟨semi, hSemi, -⟩ := h
      have hAnchor {other : String} (hOne : spec.referencedEntities = [other]) :
          other = anchor := by
        simpa [hEntities, eq_comm] using hOne
      refine ⟨by simp, by simp, ?_, ?_⟩
      · rintro other ⟨entity, r, hOne, hGiven, hNarrows, hBetween⟩
        obtain rfl := hAnchor hOne
        exact (exists_of_resolveSemiJoin (hGiven ▸ hSemi) hNarrows).1 other hBetween
      · intro entity field hRelates
        cases hRelates with
        | joining hTwo => simp [hEntities] at hTwo
        | narrowing hOne hGiven hNarrows hField =>
            obtain rfl := hAnchor hOne
            exact (exists_of_resolveSemiJoin (hGiven ▸ hSemi) hNarrows).2 entity field hField
  | [a, b] =>
      simp only [hEntities, resolveEntities, bind_eq_ok] at h
      obtain ⟨join, hJoin, -⟩ := h
      obtain ⟨r, hGiven, hCombines, hFields⟩ := combines_of_resolveJoin hJoin
      refine ⟨by simp, ?_, ?_, ?_⟩
      · intro a' b' hSame
        cases hSame
        exact ⟨r, hGiven, hCombines⟩
      · rintro other ⟨entity, _, hOne, -⟩
        simp [hEntities] at hOne
      · intro entity field hRelates
        cases hRelates with
        | joining _ hOwn hField =>
            cases hGiven.symm.trans hOwn
            exact hFields entity field hField
        | narrowing hOne => simp [hEntities] at hOne
  | _ :: _ :: _ :: _ =>
      rw [hEntities] at h
      cases h

end Catalog

namespace Spec

variable {spec : Spec} {c : Catalog} {maxLimit : UInt64}

/-- A specification is rejected only for what it is to blame for. -/
theorem blames_of_resolve {e : Rejection} (hOwns : c.OwnsColumns)
    (h : spec.resolve c maxLimit = .error e) : e.Blames spec c := by
  have hAxis (d : Dimension) (hMem : d ∈ spec.axes) (hFails : c.resolveAxis d = .error e) :
      e.Blames spec c := by
    refine Catalog.blames_of_resolveColumn ?_ (map_eq_error.mp hFails)
    simp only [columns, List.mem_append, List.mem_map]
    exact .inl (.inl ⟨d, hMem, rfl⟩)
  simp only [resolve, guard_eq_error, bind_eq_error, pure, Except.pure, reduceCtorEq, and_false,
    exists_false, or_false] at h
  -- The stages in order; whichever fails, those before it are of no concern.
  rcases h with ⟨hLimit, rfl⟩ |
    ⟨-, ⟨hEmpty, rfl⟩ | ⟨-, hKeys | ⟨_, -, hEntities | ⟨_, -, hDimensions |
    ⟨_, -, hColumns | ⟨_, -, hMeasures | ⟨_, -, hFilters | ⟨_, -, hSorts | ⟨_, -, hCombined⟩⟩⟩⟩⟩⟩⟩⟩⟩
  · exact ⟨hLimit, rfl⟩
  · exact by simpa [Rejection.Blames, SpecFault.Blames] using hEmpty
  · rcases checkKeys_eq_error hKeys with ⟨hBlank, rfl⟩ | ⟨key, hTwice | ⟨hNever, -⟩, rfl⟩
    · exact hBlank
    · exact hTwice
    · cases hNever
  · obtain ⟨entity, hMem, hUnlisted, rfl⟩ := Catalog.checkEntities_eq_error hEntities
    exact ⟨hUnlisted, .inl hMem⟩
  · obtain ⟨d, hMem, hFails⟩ := exists_of_mapM_eq_error hDimensions
    exact hAxis d (List.mem_append_left _ hMem) hFails
  · obtain ⟨d, hMem, hFails⟩ := exists_of_mapM_eq_error hColumns
    exact hAxis d (List.mem_append_right _ hMem) hFails
  · obtain ⟨m, hMem, hFails⟩ := exists_of_mapM_eq_error hMeasures
    exact Catalog.blames_of_resolveMeasure hOwns hMem hFails
  · obtain ⟨f, hMem, hFails⟩ := exists_of_mapM_eq_error hFilters
    exact Catalog.blames_of_resolveFilter hOwns hMem hFails
  · obtain ⟨s, hMem, hFails⟩ := exists_of_mapM_eq_error hSorts
    unfold Catalog.resolveSort at hFails
    split at hFails
    next => cases hFails
    next hUnknown =>
      cases hFails
      exact ⟨by simpa using hUnknown, s, hMem, rfl⟩
  · exact Catalog.blames_of_resolveEntities hCombined

/-- A specification that resolves to a plan satisfies all that it has to. -/
theorem ResolvesTo.acceptable {plan : Plan} (h : spec.ResolvesTo c maxLimit plan) :
    spec.Acceptable c := by
  have hListed {column : Column} (hMem : column ∈ spec.columns) :
      ∃ entry, c.resolveColumn column = .ok entry := by
    obtain ⟨entry, -, hColumn⟩ := exists_of_forall₂_right h.resolved_columns.flip hMem
    exact ⟨entry, hColumn⟩
  obtain ⟨hGiven, hDistinct, -⟩ := checkKeys_eq_ok.mp h.keys
  obtain ⟨warnings, hCombined, -⟩ := h.combined
  obtain ⟨hCount, hJoined, hMatched, hRelated⟩ := Catalog.combined_of_resolveEntities hCombined
  constructor
  case limit => exact UInt64.pos_iff_ne_zero.mpr h.limited
  case projects => exact h.projects
  case keysGiven => exact hGiven
  case keysDistinct => exact hDistinct
  case entities => exact Catalog.checkEntities_eq_ok.mp h.entities
  case columns =>
    intro column hMem
    obtain ⟨entry, hColumn⟩ := hListed hMem
    obtain ⟨hEntity, hEntry⟩ := Catalog.resolveColumn_eq_ok.mp hColumn
    exact ⟨hEntity, by simp [hEntry]⟩
  case measures =>
    intro m hMem hAggregation entry hEntry
    obtain ⟨planned, -, hMeasure⟩ := exists_of_forall₂_right h.measures.flip hMem
    obtain ⟨-, -, hColumn, hSuits⟩ := Catalog.resolveMeasure_eq_ok.mp hMeasure
    have hSummable := hSuits (Aggregation.requiresNumeric_of_mem hAggregation)
    rw [(Catalog.resolveColumn_eq_ok.mp hColumn).2] at hEntry
    cases hEntry
    simpa [Column.isSummable] using hSummable
  case filters =>
    intro f hMem entry hEntry
    obtain ⟨planned, -, hFilter⟩ := exists_of_forall₂_right h.filters.flip hMem
    obtain ⟨-, hColumn, hRead⟩ := Catalog.resolveFilter_eq_ok.mp hFilter
    rw [(Catalog.resolveColumn_eq_ok.mp hColumn).2] at hEntry
    cases hEntry
    exact ⟨planned.value, FilterValue.read_eq_ok.mp hRead⟩
  case sorts =>
    intro s hMem
    obtain ⟨planned, -, hSort⟩ := exists_of_forall₂_right h.sorts.flip hMem
    exact (Catalog.resolveSort_eq_ok.mp hSort).1
  case count => exact hCount
  case combined => exact hJoined
  case matched => exact hMatched
  case related => exact hRelated

end Spec

/-- Whatever the source of the catalog and whatever the maximum, the specifications that are
accepted are just those that satisfy all they have to, and the reason for which another one is
rejected is true of it and stands in the way of its acceptance. -/
theorem resolves_iff_acceptable {source : Source} {c : Catalog}
    (hLoad : Catalog.load source = .ok c) (spec : Spec) (maxLimit : UInt64) :
    ((∃ plan, spec.resolve c maxLimit = .ok plan) ↔ spec.Acceptable c) ∧
      (∀ e, spec.resolve c maxLimit = .error e → e.Blames spec c) ∧
      ∀ e : Rejection, e.Blames spec c → ¬spec.Acceptable c := by
  have hOwns := Catalog.ownsColumns_load hLoad
  refine ⟨⟨?_, ?_⟩, fun e hFails => Spec.blames_of_resolve hOwns hFails,
    fun e hBlames => hBlames.not_acceptable⟩
  · rintro ⟨plan, hPlan⟩
    exact (Spec.resolve_ok hPlan).acceptable
  · intro hAcceptable
    cases hOutcome : spec.resolve c maxLimit with
    | ok plan => exact ⟨plan, rfl⟩
    | error e => exact absurd hAcceptable (Spec.blames_of_resolve hOwns hOutcome).not_acceptable

/-- The refunds together with the revenue of the goods. The relationship would only narrow. -/
def Spec.refundsWithRevenue : Spec :=
  Spec.refundsByReason.withMeasure {
    column := { entity := "inventory", field := "revenue" }, aggregation := .sum, key := "revenue" }

/-- Refunds for each reason are acceptable. A relationship that only narrows shows no revenue. -/
theorem acceptable_refundsByReason : ∃ c, Catalog.load Registry.builtin.source = .ok c ∧
    Spec.refundsByReason.Acceptable c ∧ ¬Spec.refundsWithRevenue.Acceptable c ∧
    (Rejection.join (.kindUnusable "inventory" "returns")).Blames Spec.refundsWithRevenue c := by
  have hLoad : Catalog.load Registry.builtin.source = .ok _ := rfl
  obtain ⟨hAccepts, -⟩ := resolves_iff_acceptable hLoad Spec.refundsByReason 10
  obtain ⟨-, hRejects, hStands⟩ := resolves_iff_acceptable hLoad Spec.refundsWithRevenue 10
  have hBlames := hRejects (.join (.kindUnusable "inventory" "returns")) rfl
  exact ⟨_, hLoad, hAccepts.mp ⟨_, rfl⟩, hStands _ hBlames, hBlames⟩

end Crosstab
