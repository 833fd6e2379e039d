import Crosstab.Proofs.Catalog.Rule
import Crosstab.Proofs.Plan.Resolve

/-!
Relationships. What a relationship needs in order to combine two entities, or to narrow one, is said
from no particular side, and it is accepted or refused for just that.
-/

namespace Crosstab

open Crosstab.Text

/-- The fields of two entities that complete conditions name, each with its entity. Blanks around a
name do not count. -/
inductive NamesField (left right : String) (pairs : List FieldPair) : String → String → Prop
  | left {pair : FieldPair} (hMem : pair ∈ pairs) (hComplete : pair.isComplete) :
      NamesField left right pairs left (trim pair.leftField)
  | right {pair : FieldPair} (hMem : pair ∈ pairs) (hComplete : pair.isComplete) :
      NamesField left right pairs right (trim pair.rightField)

namespace Relationship

/-- The relationship is between two entities, whichever of them comes first. -/
def Between (r : Relationship) (a b : String) : Prop :=
  (r.leftEntity = a ∧ r.rightEntity = b) ∨ (r.leftEntity = b ∧ r.rightEntity = a)

/-- The relationship combines two entities, in a way that the rule for the two allows and on a
condition of its own. -/
structure Combines (r : Relationship) (c : Catalog) (a b : String) : Prop where
  enabled : r.enabled
  between : r.Between a b
  kind : ∃ kind ∈ [JoinKind.inner, .left, .right, .first], r.kind = some kind ∧
    ∀ rule, c.ruleFor? a b = some rule → kind ∈ rule.supportedKinds
  mapped : ∃ pair ∈ r.pairs, pair.isComplete

/-- The relationship keeps only those rows of an entity that have a match. -/
structure Narrows (r : Relationship) (entity : String) : Prop where
  enabled : r.enabled
  kind : r.kind = some .semi
  touches : r.leftEntity = entity ∨ r.rightEntity = entity

/-- The fields that the conditions of a relationship name: its own conditions or, if it brings none,
those of the rule for its entities. -/
inductive Names (r : Relationship) (c : Catalog) : String → String → Prop
  | own {entity field : String} (hOwn : r.pairs ≠ [])
      (hField : NamesField r.leftEntity r.rightEntity r.pairs entity field) : Names r c entity field
  | registered {rule : JoinRule} {entity field : String} (hNone : r.pairs = [])
      (hRule : c.ruleFor? r.leftEntity r.rightEntity = some rule)
      (hField : NamesField rule.source rule.target rule.pairs entity field) : Names r c entity field

end Relationship

section Fields

variable {left right entity field : String} {pairs : List FieldPair}

/-- Whether a condition is complete does not depend on its side. -/
theorem FieldPair.isComplete_flipped (pair : FieldPair) :
    pair.flipped.isComplete = pair.isComplete :=
  Bool.and_comm _ _

/-- A field that is named from the one side is named from the other. -/
theorem NamesField.flipped (h : NamesField left right pairs entity field) :
    NamesField right left (pairs.map FieldPair.flipped) entity field := by
  cases h with
  | @left pair hMem hComplete =>
      rw [← pair.isComplete_flipped] at hComplete
      exact @NamesField.right right left _ pair.flipped (List.mem_map_of_mem hMem) hComplete
  | @right pair hMem hComplete =>
      rw [← pair.isComplete_flipped] at hComplete
      exact @NamesField.left right left _ pair.flipped (List.mem_map_of_mem hMem) hComplete

theorem FieldPair.flipped_flipped (pair : FieldPair) : pair.flipped.flipped = pair := by
  cases pair with
  | mk leftField rightField comparator => cases comparator <;> rfl

/-- Written from the other side, conditions name the same fields. -/
theorem namesField_flipped : NamesField right left (pairs.map FieldPair.flipped) entity field ↔
    NamesField left right pairs entity field := by
  constructor
  · intro h
    have hTwice : (pairs.map FieldPair.flipped).map FieldPair.flipped = pairs := by
      simp [Function.comp_def, FieldPair.flipped_flipped]
    exact hTwice ▸ h.flipped
  · exact NamesField.flipped

/-- A rule names the same fields from either side. -/
theorem JoinRule.namesField_seenFrom {rule : JoinRule} (h : rule.connects left right) :
    NamesField left right (rule.seenFrom left).pairs entity field ↔
      NamesField rule.source rule.target rule.pairs entity field := by
  have hSides : (rule.source = left ∧ rule.target = right) ∨
      (rule.source = right ∧ rule.target = left) := by simpa [connects] using h
  unfold seenFrom
  split
  next hSource =>
    have hTarget : rule.target = right := by
      rcases hSides with ⟨-, hTarget⟩ | ⟨hOther, hTarget⟩
      · exact hTarget
      · exact hTarget.trans (hSource.symm.trans hOther)
    rw [hSource, hTarget]
  next hSource =>
    obtain ⟨hSource, hTarget⟩ := hSides.resolve_left fun hLeft => hSource hLeft.1
    rw [reversed, hSource, hTarget]
    exact namesField_flipped

end Fields

namespace Relationship

variable {r : Relationship} {c : Catalog} {a b entity field other : String}

/-- The test for two entities asks for a relationship between them. -/
theorem connects_iff : r.connects a b ↔ r.Between a b := by
  simp [connects, Between]

/-- The rule for the sides of a relationship does not depend on how it is written. -/
theorem Between.ruleFor?_eq (h : r.Between a b) :
    c.ruleFor? r.leftEntity r.rightEntity = c.ruleFor? a b := by
  rcases h with ⟨rfl, rfl⟩ | ⟨rfl, rfl⟩
  · rfl
  · exact Catalog.ruleFor?_comm

/-- Seen from one of its entities, a relationship has the other one on the right. -/
theorem between_seenFrom (h : r.leftEntity = entity ∨ r.rightEntity = entity) :
    r.Between entity other ↔ (r.seenFrom entity).rightEntity = other := by
  unfold seenFrom Between
  split
  next hLeft =>
    constructor
    · rintro (⟨-, hRight⟩ | ⟨hOther, hRight⟩)
      · exact hRight
      · exact hRight.trans (hLeft.symm.trans hOther)
    · exact fun hRight => .inl ⟨hLeft, hRight⟩
  next hLeft =>
    have hRight := h.resolve_left hLeft
    simp [reversed, hLeft, hRight]

/-- The conditions of a relationship name the same fields from both of its sides. -/
theorem names_seenFrom : (r.seenFrom entity).Names c other field ↔ r.Names c other field := by
  unfold seenFrom
  split
  · rfl
  · constructor
    · rintro (⟨hOwn, hField⟩ | ⟨hNone, hRule, hField⟩)
      · exact .own (by simpa [reversed] using hOwn) (namesField_flipped.mp hField)
      · rw [reversed, Catalog.ruleFor?_comm] at hRule
        exact .registered (by simpa [reversed] using hNone) hRule hField
    · rintro (⟨hOwn, hField⟩ | ⟨hNone, hRule, hField⟩)
      · exact .own (by simpa [reversed] using hOwn) (namesField_flipped.mpr hField)
      · rw [Catalog.ruleFor?_comm] at hRule
        exact .registered (by simpa [reversed] using hNone) hRule hField

end Relationship

namespace Catalog

variable {c : Catalog} {left right entity field : String} {pairs : List FieldPair}

/-- No conditions are left just if none is complete. -/
theorem completePairs_eq_nil : completePairs pairs = [] ↔ ∀ pair ∈ pairs, ¬pair.isComplete := by
  simp [completePairs]

/-- A field stands on one side of a condition, with the entity of that side. -/
def OnSide (left right : String) (pairs : List FieldPair) (entity field : String) : Prop :=
  ∃ pair ∈ pairs, (entity = left ∧ field = pair.leftField) ∨
    (entity = right ∧ field = pair.rightField)

/-- Conditions name the fields on the sides of those that are left when incomplete ones are left
out. -/
theorem namesField_iff : NamesField left right pairs entity field ↔
    OnSide left right (completePairs pairs) entity field := by
  constructor
  · rintro (⟨hMem, hComplete⟩ | ⟨hMem, hComplete⟩)
    · exact ⟨_, mem_completePairs.mpr ⟨_, hMem, hComplete, rfl⟩, .inl ⟨rfl, rfl⟩⟩
    · exact ⟨_, mem_completePairs.mpr ⟨_, hMem, hComplete, rfl⟩, .inr ⟨rfl, rfl⟩⟩
  · rintro ⟨pair, hMem, hSide⟩
    obtain ⟨given, hGiven, hComplete, rfl⟩ := mem_completePairs.mp hMem
    rcases hSide with ⟨rfl, rfl⟩ | ⟨rfl, rfl⟩
    · exact .left hGiven hComplete
    · exact .right hGiven hComplete

/-- Wherever the conditions of a relationship come from, it names the fields on their sides. -/
theorem names_iff {r : Relationship} : r.Names c entity field ↔
    OnSide r.leftEntity r.rightEntity (c.pairsFor r) entity field := by
  rw [pairsFor, ← namesField_iff, joinRule?_eq]
  constructor
  · rintro (⟨hOwn, hField⟩ | ⟨hNone, hRule, hField⟩)
    · simpa [hOwn] using hField
    · rw [← JoinRule.namesField_seenFrom (connects_of_ruleFor? hRule)] at hField
      simpa [hNone, hRule] using hField
  · intro h
    by_cases hNone : r.pairs = []
    · cases hRule : c.ruleFor? r.leftEntity r.rightEntity with
      | none =>
          simp only [hNone, hRule] at h
          obtain ⟨hMem, -⟩ | ⟨hMem, -⟩ := h <;> cases hMem
      | some rule =>
          refine .registered hNone hRule ?_
          rw [← JoinRule.namesField_seenFrom (connects_of_ruleFor? hRule)]
          simpa [hNone, hRule] using h
    · exact .own hNone (by simpa [hNone] using h)

/-- A field is refused if its entity does not list it. -/
theorem checkField_eq_error {e : Rejection} (h : c.checkField entity field = .error e) :
    c.column? entity field = none ∧ e = .spec (.unknownField entity field) := by
  unfold checkField at h
  split at h
  · cases h
  next hNone =>
    cases h
    exact ⟨by simpa using hNone, rfl⟩

/-- Conditions pass if all fields on their sides exist. -/
theorem checkPairs_eq_ok_iff_onSide : c.checkPairs left right pairs = .ok () ↔
    ∀ entity field, OnSide left right pairs entity field → (c.column? entity field).isSome := by
  rw [checkPairs_eq_ok]
  constructor
  · rintro h entity field ⟨pair, hMem, ⟨rfl, rfl⟩ | ⟨rfl, rfl⟩⟩
    · exact (h pair hMem).1
    · exact (h pair hMem).2
  · intro h pair hMem
    exact ⟨h _ _ ⟨pair, hMem, .inl ⟨rfl, rfl⟩⟩, h _ _ ⟨pair, hMem, .inr ⟨rfl, rfl⟩⟩⟩

/-- Conditions are refused for a field on one of their sides. -/
theorem exists_onSide_of_checkPairs {e : Rejection} (h : c.checkPairs left right pairs = .error e) :
    ∃ entity field, OnSide left right pairs entity field ∧ c.column? entity field = none ∧
      e = .spec (.unknownField entity field) := by
  induction pairs with
  | nil => cases h
  | cons pair rest ih =>
      simp only [checkPairs, bind_eq_error] at h
      rcases h with hLeft | ⟨_, -, hRight | ⟨_, -, hRest⟩⟩
      · exact ⟨_, _, ⟨pair, List.mem_cons_self, .inl ⟨rfl, rfl⟩⟩, checkField_eq_error hLeft⟩
      · exact ⟨_, _, ⟨pair, List.mem_cons_self, .inr ⟨rfl, rfl⟩⟩, checkField_eq_error hRight⟩
      · obtain ⟨entity, field, ⟨other, hMem, hSide⟩, hMissing⟩ := ih hRest
        exact ⟨entity, field, ⟨other, List.mem_cons_of_mem _ hMem, hSide⟩, hMissing⟩

end Catalog

/-- What it means that the relationship for two entities has a fault. -/
def JoinFault.Blames (c : Catalog) (given : Option Relationship) (a b : String) : JoinFault → Prop
  | .kindMissing left right =>
    left = a ∧ right = b ∧ ∀ r, given = some r → r.enabled → r.kind = none
  | .entitiesMismatch left right foundLeft foundRight => left = a ∧ right = b ∧
      ∃ r, given = some r ∧ r.leftEntity = foundLeft ∧ r.rightEntity = foundRight ∧ ¬r.Between a b
  | .kindUnusable left right => ∃ r, given = some r ∧ r.leftEntity = left ∧ r.rightEntity = right ∧
      r.Between a b ∧ r.kind = some .semi
  | .kindUnsupported kind left right => ∃ r rule, given = some r ∧ r.leftEntity = left ∧
      r.rightEntity = right ∧ r.Between a b ∧ r.kind = some kind ∧ c.ruleFor? a b = some rule ∧
      kind ∉ rule.supportedKinds
  | .mappingIncomplete left right => ∃ r, given = some r ∧ r.leftEntity = left ∧
      r.rightEntity = right ∧ r.Between a b ∧ ∀ pair ∈ r.pairs, ¬pair.isComplete

/-- A relationship with a fault does not combine the two entities. -/
theorem JoinFault.Blames.not_combines {c : Catalog} {r : Relationship} {a b : String}
    {fault : JoinFault} (h : fault.Blames c (some r) a b) : ¬r.Combines c a b := by
  intro hCombines
  obtain ⟨kind, hKinds, hKind, hAllowed⟩ := hCombines.kind
  cases fault with
  | kindMissing =>
      cases hKind.symm.trans (h.2.2 r rfl hCombines.enabled)
  | entitiesMismatch =>
      obtain ⟨-, -, _, hSame, -, -, hBetween⟩ := h
      cases hSame
      exact hBetween hCombines.between
  | kindUnusable =>
      obtain ⟨_, hSame, -, -, -, hSemi⟩ := h
      cases hSame
      cases hKind.symm.trans hSemi
      simp at hKinds
  | kindUnsupported =>
      obtain ⟨_, rule, hSame, -, -, -, hOther, hRule, hUnsupported⟩ := h
      cases hSame
      cases hKind.symm.trans hOther
      exact hUnsupported (hAllowed rule hRule)
  | mappingIncomplete =>
      obtain ⟨_, hSame, -, -, -, hIncomplete⟩ := h
      cases hSame
      obtain ⟨pair, hMem, hComplete⟩ := hCombines.mapped
      exact hIncomplete pair hMem hComplete

/-- All kinds but the semi join show both sides. -/
theorem JoinKind.mem_of_projectsBoth {kind : JoinKind} (h : kind.projectsBoth) :
    kind ∈ [.inner, .left, .right, .first] := by
  cases kind <;> first | simp; done | cases h

namespace Catalog

variable {c : Catalog} {given : Option Relationship} {r : Relationship} {a b entity : String}
  {e : Rejection}

/-- Seen from either entity, the rule for two entities allows the same kinds. -/
theorem joinRule?_supports {kind : JoinKind} (h : r.Between a b) :
    (∀ rule, c.joinRule? r.leftEntity r.rightEntity = some rule → rule.supports kind) ↔
      ∀ rule, c.ruleFor? a b = some rule → kind ∈ rule.supportedKinds := by
  have hAllowed (rule : JoinRule) : kind ∈ rule.supportedKinds ↔ rule.supports kind := by
    simp [JoinRule.supports]
  rw [joinRule?_eq, h.ruleFor?_eq]
  cases c.ruleFor? a b <;> simp [hAllowed]

/-- Entities are joined by a relationship that combines them, and all fields that it names exist. -/
theorem combines_of_resolveJoin {join : PlannedJoin} (h : c.resolveJoin given a b = .ok join) :
    ∃ r, given = some r ∧ r.Combines c a b ∧ ∀ entity field,
      NamesField r.leftEntity r.rightEntity r.pairs entity field →
        (c.column? entity field).isSome := by
  obtain ⟨r, kind, hGiven, hEnabled, hConnects, hKind, hBoth, hRule, hPairs, hFields, -⟩ :=
    resolveJoin_eq_ok.mp h
  have hBetween := Relationship.connects_iff.mp hConnects
  rw [checkPairs_eq_ok_iff_onSide] at hFields
  refine ⟨r, hGiven, ?_, fun owner field hField => hFields owner field (namesField_iff.mp hField)⟩
  exact {
    enabled := hEnabled
    between := hBetween
    kind := ⟨kind, kind.mem_of_projectsBoth hBoth, hKind, (joinRule?_supports hBetween).mp hRule⟩
    mapped := by simpa [completePairs_eq_nil] using hPairs }

/-- A relationship of a known kind fails to join entities for what its kind or its conditions
lack. -/
theorem blames_of_kind {kind : JoinKind} (hOn : r.enabled) (hBetween : r.Between a b)
    (hKind : r.kind = some kind) (h : c.resolveJoin (some r) a b = .error e) :
    (∃ fault, e = .join fault ∧ fault.Blames c (some r) a b) ∨ ∃ entity field,
      NamesField r.leftEntity r.rightEntity r.pairs entity field ∧ c.column? entity field = none ∧
        e = .spec (.unknownField entity field) := by
  have hEnabled : (some r).filter Relationship.enabled = some r := by simp [hOn, Option.filter]
  simp only [resolveJoin, hEnabled, hKind, guard_eq_error, bind_eq_error,
    Relationship.connects_iff.mpr hBetween] at h
  rcases h with ⟨hNever, -⟩ | ⟨-, ⟨hSemi, hFault⟩ | ⟨-, ⟨hRule, hFault⟩ | ⟨-, ⟨hPairs, hFault⟩ |
    ⟨-, h⟩⟩⟩⟩
  · cases hNever
  · cases hFault
    have hSemi : kind = .semi := by simpa [JoinKind.projectsBoth] using hSemi
    exact .inl ⟨_, rfl, r, rfl, rfl, rfl, hBetween, hSemi ▸ hKind⟩
  · cases hFault
    obtain ⟨rule, hFound, hNot⟩ : ∃ rule, c.ruleFor? a b = some rule ∧
        kind ∉ rule.supportedKinds := by
      by_contra hAll
      push Not at hAll
      have hAllowed := (joinRule?_supports hBetween).mpr hAll
      cases hFound : c.joinRule? r.leftEntity r.rightEntity with
      | none => simp [hFound] at hRule
      | some rule => simp [hFound, hAllowed rule hFound] at hRule
    exact .inl ⟨_, rfl, r, rule, rfl, rfl, rfl, hBetween, hKind, hFound, hNot⟩
  · cases hFault
    exact .inl ⟨_, rfl, r, rfl, rfl, rfl, hBetween, completePairs_eq_nil.mp (by simpa using hPairs)⟩
  · rcases h with hFields | ⟨_, -, hNever⟩
    · obtain ⟨owner, field, hSide, hMissing⟩ := exists_onSide_of_checkPairs hFields
      exact .inr ⟨owner, field, namesField_iff.mpr hSide, hMissing⟩
    · cases hNever

/-- Entities are not joined because of a fault that the relationship has, or of a field that it
names. -/
theorem blames_of_resolveJoin (h : c.resolveJoin given a b = .error e) :
    (∃ fault, e = .join fault ∧ fault.Blames c given a b) ∨
      ∃ r entity field, given = some r ∧
        NamesField r.leftEntity r.rightEntity r.pairs entity field ∧ c.column? entity field = none ∧
        e = .spec (.unknownField entity field) := by
  cases hEnabled : given.filter Relationship.enabled with
  | none =>
      have hNone (r : Relationship) (hGiven : given = some r) (hOn : r.enabled) :
          r.kind = none := by
        simp [hGiven, hOn, Option.filter] at hEnabled
      simp only [resolveJoin, hEnabled, Except.error.injEq] at h
      exact .inl ⟨_, h.symm, rfl, rfl, hNone⟩
  | some r =>
      obtain ⟨rfl, hOn⟩ := Option.filter_eq_some_iff.mp hEnabled
      by_cases hBetween : r.Between a b
      · cases hKind : r.kind with
        | none =>
            simp only [resolveJoin, hEnabled, hKind, guard_eq_error,
              Relationship.connects_iff.mpr hBetween, Except.error.injEq] at h
            obtain ⟨hNever, -⟩ | ⟨-, rfl⟩ := h
            · cases hNever
            · exact .inl ⟨_, rfl, rfl, rfl, fun other hSame _ => Option.some.inj hSame ▸ hKind⟩
        | some kind =>
            rcases blames_of_kind hOn hBetween hKind h with hFault | ⟨owner, field, hMissing⟩
            · exact .inl hFault
            · exact .inr ⟨r, owner, field, rfl, hMissing⟩
      · have hApart : ¬r.connects a b := Relationship.connects_iff.not.mpr hBetween
        simp only [resolveJoin, hEnabled, guard_eq_error, hApart] at h
        obtain ⟨-, hFault⟩ | ⟨hNever, -⟩ := h
        · cases hFault
          exact .inl ⟨_, rfl, rfl, rfl, r, rfl, rfl, rfl, hBetween⟩
        · simp at hNever

/-- What it takes for a relationship to narrow rows of a single entity. -/
theorem narrows_iff : r.Narrows entity ↔ r.enabled ∧ r.kind = some .semi ∧ r.touches entity := by
  constructor
  · intro h
    exact ⟨h.enabled, h.kind, by simpa [Relationship.touches] using h.touches⟩
  · rintro ⟨hEnabled, hKind, hTouches⟩
    exact ⟨hEnabled, hKind, by simpa [Relationship.touches] using hTouches⟩

/-- An entity is narrowed by a relationship whose other entity is listed and whose fields all
exist. -/
theorem exists_of_resolveSemiJoin {outcome : Option PlannedJoin × List String}
    (h : c.resolveSemiJoin (some r) entity = .ok outcome) (hNarrows : r.Narrows entity) :
    (∀ other, r.Between entity other → c.hasEntity other) ∧
      ∀ owner field, r.Names c owner field → (c.column? owner field).isSome := by
  have hListed (hRight : c.hasEntity (r.seenFrom entity).rightEntity) (other : String)
      (hBetween : r.Between entity other) : c.hasEntity other :=
    (Relationship.between_seenFrom hNarrows.touches).mp hBetween ▸ hRight
  have hSides (owner field : String) : r.Names c owner field ↔ OnSide (r.seenFrom entity).leftEntity
      (r.seenFrom entity).rightEntity (c.pairsFor (r.seenFrom entity)) owner field :=
    Relationship.names_seenFrom.symm.trans names_iff
  simp only [hSides]
  rcases c.resolveSemiJoin_cases (some r) entity with ⟨hIgnored, -⟩ |
    ⟨_, _, hSame, rfl, -, ⟨-, hOutcome⟩ | ⟨hRight, hNone, -⟩ | ⟨hRight, -, hOutcome⟩⟩
  · exact absurd (narrows_iff.mp hNarrows) (hIgnored r rfl)
  · cases h.symm.trans hOutcome
  · cases hSame
    refine ⟨hListed hRight, ?_⟩
    rintro owner field ⟨pair, hMem, -⟩
    rw [hNone] at hMem
    cases hMem
  · cases hSame
    obtain ⟨_, hFields, -⟩ := map_eq_ok.mp (hOutcome.symm.trans h)
    exact ⟨hListed hRight, checkPairs_eq_ok_iff_onSide.mp hFields⟩

/-- An entity is not narrowed because the other one is not listed, or because of a field that does
not exist. -/
theorem blames_of_resolveSemiJoin (h : c.resolveSemiJoin given entity = .error e) :
    ∃ r, given = some r ∧ r.Narrows entity ∧
      ((∃ other, r.Between entity other ∧ ¬c.hasEntity other ∧ e = .spec (.unknownEntity other)) ∨
        ∃ owner field, r.Names c owner field ∧ c.column? owner field = none ∧
          e = .spec (.unknownField owner field)) := by
  rcases c.resolveSemiJoin_cases given entity with ⟨-, hOutcome⟩ |
    ⟨r, _, hGiven, rfl, hApplies, ⟨hUnlisted, hOutcome⟩ | ⟨-, -, _, hOutcome⟩ | ⟨-, -, hOutcome⟩⟩
  · cases h.symm.trans hOutcome
  · cases h.symm.trans hOutcome
    have hNarrows := narrows_iff.mpr hApplies
    have hBetween := (Relationship.between_seenFrom hNarrows.touches).mpr rfl
    exact ⟨r, hGiven, hNarrows, .inl ⟨_, hBetween, hUnlisted, rfl⟩⟩
  · cases h.symm.trans hOutcome
  · obtain ⟨owner, field, hSide, hMissing⟩ :=
      exists_onSide_of_checkPairs (map_eq_error.mp (hOutcome.symm.trans h))
    have hNames := Relationship.names_seenFrom.mp (names_iff.mpr hSide)
    exact ⟨r, hGiven, narrows_iff.mpr hApplies, .inr ⟨owner, field, hNames, hMissing⟩⟩

end Catalog

end Crosstab
