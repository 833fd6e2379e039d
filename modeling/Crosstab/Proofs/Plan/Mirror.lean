import Crosstab.Proofs.Catalog.Load
import Crosstab.Proofs.Plan.Relationship
import Mathlib.Order.Defs.LinearOrder

/-!
Mirror images. A relationship can be written from either of its sides, and so can a rule of the
catalog. A condition and its flipped form hold of the same rows, and a specification is accepted or
refused alike; all that remains of the direction is from which side of a join of two entities rows
are read.
-/

namespace Crosstab

universe u

section Conditions

variable {α : Type u} [LinearOrder α]

def Comparator.Holds : Comparator → α → α → Prop
  | .eq, x, y => x = y
  | .ne, x, y => x ≠ y
  | .lt, x, y => x < y
  | .le, x, y => x ≤ y
  | .gt, x, y => x > y
  | .ge, x, y => x ≥ y

def FieldPair.Holds (pair : FieldPair) (left right : String → α) : Prop :=
  pair.comparator.Holds (left pair.leftField) (right pair.rightField)

/-- An exchanged comparison holds of exchanged values. -/
theorem Comparator.holds_flipped (c : Comparator) (x y : α) :
    c.flipped.Holds y x ↔ c.Holds x y := by
  cases c with
  | eq => exact eq_comm
  | ne => exact ne_comm
  | lt | le | gt | ge => exact Iff.rfl

/-- A condition holds from the one side just if it does from the other. -/
theorem FieldPair.holds_flipped (pair : FieldPair) (left right : String → α) :
    pair.flipped.Holds right left ↔ pair.Holds left right :=
  pair.comparator.holds_flipped _ _

end Conditions

namespace JoinRule

variable {rule other : JoinRule} {a b : String}

theorem reversed_reversed (rule : JoinRule) : rule.reversed.reversed = rule := by
  simp [reversed, Function.comp_def, FieldPair.flipped_flipped]

/-- Seen from the other of its two entities, a rule is reversed. -/
theorem seenFrom_other (hApart : a ≠ b) (h : rule.connects a b) :
    rule.seenFrom b = (rule.seenFrom a).reversed := by
  have hSides : (rule.source = a ∧ rule.target = b) ∨ (rule.source = b ∧ rule.target = a) := by
    simpa [connects] using h
  rcases hSides with ⟨hSource, -⟩ | ⟨hSource, -⟩
  · simp [seenFrom, hSource, hApart]
  · simp [seenFrom, hSource, hApart.symm, reversed_reversed]

/-- Two rules that differ in nothing but the side that they are written from. -/
def WrittenAlike (rule other : JoinRule) : Prop := other = rule ∨ other = rule.reversed

/-- Rules that are written alike look the same from either entity. -/
theorem WrittenAlike.oriented?_eq (h : rule.WrittenAlike other) (hApart : a ≠ b) :
    other.oriented? a b = rule.oriented? a b := by
  rcases h with rfl | rfl
  · rfl
  · have hForth : rule.reversed.source = a ∧ rule.reversed.target = b ↔
        rule.source = b ∧ rule.target = a := And.comm
    have hBack : rule.reversed.source = b ∧ rule.reversed.target = a ↔
        rule.source = a ∧ rule.target = b := And.comm
    simp only [oriented?, hForth, hBack, reversed_reversed]
    split
    next hReversed =>
      rw [if_neg fun hOwn => hApart (hOwn.1.symm.trans hReversed.1)]
    next => rfl

/-- The two rules are for the same entities. -/
theorem WrittenAlike.listed_iff (h : rule.WrittenAlike other) (isListed : String → Bool) :
    (isListed rule.source && isListed rule.target) ↔
      (isListed other.source && isListed other.target) := by
  rcases h with rfl | rfl
  · rfl
  · rw [Bool.and_comm]
    rfl

end JoinRule

namespace Catalog

variable {c other : Catalog} {a b : String}

/-- From the other side, the rule for two entities is reversed. -/
theorem joinRule?_comm (c : Catalog) (hApart : a ≠ b) :
    c.joinRule? b a = (c.joinRule? a b).map JoinRule.reversed := by
  rw [joinRule?_eq, joinRule?_eq, ruleFor?_comm]
  cases hRule : c.ruleFor? a b with
  | none => rfl
  | some rule =>
      rw [Option.map_some, Option.map_some, Option.map_some,
        JoinRule.seenFrom_other hApart (connects_of_ruleFor? hRule)]

/-- The rules for two entities are the same if all rules are written alike. -/
theorem filterMap_oriented?_eq {rules others : List JoinRule}
    (h : List.Forall₂ JoinRule.WrittenAlike rules others) (hApart : a ≠ b) :
    others.filterMap (fun rule => rule.oriented? a b) =
      rules.filterMap fun rule => rule.oriented? a b := by
  induction h with
  | nil => rfl
  | cons hFirst _ ih =>
    rw [List.filterMap_cons, List.filterMap_cons, hFirst.oriented?_eq hApart, ih]

/-- It does not matter from which side rules are written. -/
theorem joinRule?_eq_of_writtenAlike (h : List.Forall₂ JoinRule.WrittenAlike c.joins other.joins)
    (hApart : a ≠ b) : other.joinRule? a b = c.joinRule? a b := by
  rw [joinRule?, joinRule?, filterMap_oriented?_eq h hApart]

/-- A source that registers some of its rules from the other side gives the same catalog, up to the
side that these rules are written from. -/
theorem load_of_writtenAlike {source : Source} {rules others : List JoinRule}
    (hLoad : load source = .ok c) (hRules : source.joins = .ok rules)
    (h : List.Forall₂ JoinRule.WrittenAlike rules others) :
    ∃ other, load { source with joins := .ok others } = .ok other ∧
      other.entities = c.entities ∧ other.columns = c.columns ∧
      List.Forall₂ JoinRule.WrittenAlike c.joins other.joins := by
  have hGiven : List.Forall₂ JoinRule.WrittenAlike (if rules.isEmpty then Builtin.joins else rules)
      (if others.isEmpty then Builtin.joins else others) := by
    cases h with
    | nil => exact List.forall₂_same.mpr fun rule _ => .inl rfl
    | cons hFirst hRest => exact .cons hFirst hRest
  simp only [load, bind_eq_ok] at hLoad ⊢
  obtain ⟨listed, hListed, columns, hColumns, own, hOwn, hEq⟩ := hLoad
  cases hRules.symm.trans hOwn
  cases hEq
  refine ⟨_, ⟨listed, hListed, columns, hColumns, others, rfl, rfl⟩, rfl, rfl, ?_⟩
  refine List.rel_filter (fun rule other hAlike => ?_) hGiven
  exact hAlike.listed_iff fun id =>
    (if listed.isEmpty then Builtin.entities else listed).any fun entity => entity.id = id

end Catalog

/-- Two outcomes of checking agree: what is accepted is related, and what is refused is refused
under the same code. -/
inductive Agree {α : Type} (r : α → α → Prop) : Except Rejection α → Except Rejection α → Prop
  | accepted {x y : α} (h : r x y) : Agree r (.ok x) (.ok y)
  | refused {e e' : Rejection} (h : e.code = e'.code) : Agree r (.error e) (.error e')

namespace Agree

variable {α β : Type} {r : α → α → Prop} {s : β → β → Prop} {x y : Except Rejection α}
  {f g : α → Except Rejection β}

/-- What the one accepts, the other accepts with a related outcome. -/
theorem exists_accepted {a : α} (h : Agree r x y) (hAccepts : x = .ok a) :
    ∃ b, y = .ok b ∧ r a b := by
  cases h with
  | accepted hValues =>
      cases hAccepts
      exact ⟨_, rfl, hValues⟩
  | refused => cases hAccepts

theorem refl (x : Except Rejection α) : Agree Eq x x := by
  cases x with
  | error e => exact .refused rfl
  | ok a => exact .accepted rfl

/-- Agreement carries over to checks in sequence. -/
theorem bind (h : Agree r x y) (hNext : ∀ a b, r a b → Agree s (f a) (g b)) :
    Agree s (x >>= f) (y >>= g) := by
  cases h with
  | accepted hValues => exact hNext _ _ hValues
  | refused hCode => exact .refused hCode

/-- Outcomes that go through the same check first. -/
theorem bind_same {x : Except Rejection α} (hNext : ∀ a, Agree s (f a) (g a)) :
    Agree s (x >>= f) (x >>= g) :=
  (refl x).bind fun a _ hSame => hSame ▸ hNext a

/-- Outcomes that stand behind the same guard. -/
theorem guard {p : Prop} [Decidable p] {e e' : Rejection} {u v : Unit → Except Rejection α}
    (hCode : e.code = e'.code) (h : ¬p → Agree r x y) :
    Agree r (if p then .error e >>= u else x) (if p then .error e' >>= v else y) := by
  split
  next => exact .refused hCode
  next hPasses => exact h hPasses

end Agree

namespace Relationship

variable {r : Relationship} {entity a b : String}

theorem touches_reversed (r : Relationship) (entity : String) :
    r.reversed.touches entity = r.touches entity :=
  Bool.or_comm _ _

/-- A relationship that is turned is between the same entities. -/
theorem between_reversed : r.reversed.Between a b ↔ r.Between a b :=
  Or.comm.trans (or_congr And.comm And.comm)

theorem connects_reversed (r : Relationship) (a b : String) :
    r.reversed.connects a b = r.connects a b := by
  rw [Bool.eq_iff_iff, connects_iff, connects_iff, between_reversed]

/-- From a given entity, a relationship looks the same whichever way it is written. -/
theorem seenFrom_reversed (hApart : r.leftEntity ≠ r.rightEntity) (h : r.touches entity) :
    r.reversed.seenFrom entity = r.seenFrom entity := by
  have hSides : r.leftEntity = entity ∨ r.rightEntity = entity := by simpa [touches] using h
  have hTwice : r.reversed.reversed = r := by
    simp [reversed, Function.comp_def, FieldPair.flipped_flipped]
  have hLeft : r.reversed.leftEntity = r.rightEntity := rfl
  rcases hSides with rfl | rfl
  · rw [seenFrom, seenFrom, if_pos rfl, hLeft, if_neg hApart.symm, hTwice]
  · rw [seenFrom, seenFrom, hLeft, if_pos rfl, if_neg hApart]

end Relationship

/-- The join as it is written from its right side. -/
def PlannedJoin.mirrored (join : PlannedJoin) : PlannedJoin :=
  ⟨join.rightEntity, join.leftEntity, join.kind, join.pairs.map FieldPair.flipped⟩

namespace Catalog

variable {c : Catalog} {r : Relationship} {a b entity : String}

/-- A condition is complete from either side. -/
theorem completePairs_flipped (pairs : List FieldPair) :
    completePairs (pairs.map FieldPair.flipped) = (completePairs pairs).map FieldPair.flipped := by
  have hComplete : FieldPair.isComplete ∘ FieldPair.flipped = FieldPair.isComplete :=
    funext FieldPair.isComplete_flipped
  have hTrimmed :
      FieldPair.trimmed ∘ FieldPair.flipped = FieldPair.flipped ∘ FieldPair.trimmed := rfl
  calc completePairs (pairs.map FieldPair.flipped)
    _ = ((pairs.filter FieldPair.isComplete).map FieldPair.flipped).map FieldPair.trimmed := by
        rw [completePairs, List.filter_map, hComplete]
    _ = ((pairs.filter FieldPair.isComplete).map FieldPair.trimmed).map FieldPair.flipped := by
        rw [List.map_map, hTrimmed, ← List.map_map]

/-- Whichever side a relationship is written from, it narrows an entity in the same way. -/
theorem resolveSemiJoin_reversed (hApart : r.leftEntity ≠ r.rightEntity) :
    c.resolveSemiJoin (some r.reversed) entity = c.resolveSemiJoin (some r) entity := by
  have hSeen (r : Relationship) :
      (if r.leftEntity = entity then r else r.reversed) = r.seenFrom entity := rfl
  simp only [resolveSemiJoin, hSeen, Relationship.touches_reversed]
  cases hTouches : r.touches entity with
  | false => simp
  | true =>
      rw [Relationship.seenFrom_reversed hApart hTouches]
      rfl

/-- Conditions are checked alike from both sides. The field that they are refused for may be another
one, but the reason is the same. -/
theorem agree_checkPairs_flipped {left right : String} (pairs : List FieldPair) :
    Agree Eq (c.checkPairs left right pairs)
      (c.checkPairs right left (pairs.map FieldPair.flipped)) := by
  have hBoth : c.checkPairs right left (pairs.map FieldPair.flipped) = .ok () ↔
      c.checkPairs left right pairs = .ok () := by
    rw [checkPairs_eq_ok, checkPairs_eq_ok, List.forall_mem_map]
    exact forall₂_congr fun pair _ => And.comm
  cases hOwn : c.checkPairs left right pairs with
  | ok =>
      rw [hBoth.mpr hOwn]
      exact .accepted rfl
  | error e =>
      cases hFlipped : c.checkPairs right left (pairs.map FieldPair.flipped) with
      | ok => cases hOwn.symm.trans (hBoth.mp hFlipped)
      | error e' =>
          obtain ⟨_, _, -, -, rfl⟩ := exists_onSide_of_checkPairs hOwn
          obtain ⟨_, _, -, -, rfl⟩ := exists_onSide_of_checkPairs hFlipped
          exact .refused rfl

/-- Whether a kind is allowed does not depend on the side from which the rule is seen. -/
theorem any_joinRule?_comm (kind : JoinKind) :
    ((c.joinRule? b a).any fun rule => !rule.supports kind) =
      (c.joinRule? a b).any fun rule => !rule.supports kind := by
  rw [joinRule?_eq, joinRule?_eq, ruleFor?_comm, Option.any_map, Option.any_map]
  simp

/-- A relationship joins two entities from either of its sides, or from none. -/
theorem agree_resolveJoin_reversed (c : Catalog) (r : Relationship) (a b : String) :
    Agree (fun join other => other = join.mirrored) (c.resolveJoin (some r) a b)
      (c.resolveJoin (some r.reversed) a b) := by
  have hOther : (some r.reversed).filter Relationship.enabled =
      ((some r).filter Relationship.enabled).map Relationship.reversed := by
    rw [Option.filter_some, Option.filter_some]
    exact apply_ite (Option.map Relationship.reversed) (r.enabled = true) (some r) none |>.symm
  unfold resolveJoin
  rw [hOther]
  cases hEnabled : (some r).filter Relationship.enabled with
  | none => exact .refused rfl
  | some given =>
      have hKind : given.reversed.kind = given.kind := rfl
      have hPairs : completePairs given.reversed.pairs =
          (completePairs given.pairs).map FieldPair.flipped := completePairs_flipped given.pairs
      have hRule (kind : JoinKind) :
          ((c.joinRule? given.reversed.leftEntity given.reversed.rightEntity).any fun rule =>
            !rule.supports kind) =
          (c.joinRule? given.leftEntity given.rightEntity).any fun rule => !rule.supports kind :=
        any_joinRule?_comm kind
      simp only [Option.map_some, Relationship.connects_reversed]
      refine Agree.guard rfl fun _ => ?_
      simp only [hKind]
      cases given.kind with
      | none => exact .refused rfl
      | some kind =>
          simp only [hRule, hPairs, List.isEmpty_map]
          refine Agree.guard rfl fun _ => Agree.guard rfl fun _ => Agree.guard rfl fun _ => ?_
          exact (agree_checkPairs_flipped _).bind fun _ _ _ => .accepted rfl

end Catalog

/-- Two plans that differ in nothing but the side of their join that rows are read from. -/
def Plan.Mirrored (plan other : Plan) : Prop :=
  ∃ join, plan.join = some join ∧
    other = { plan with anchor := join.rightEntity, join := some join.mirrored }

namespace Spec

variable {c : Catalog} {maxLimit : UInt64} {r : Relationship} {a b : String}

/-- For a single entity, a turned relationship makes the same plan. -/
theorem resolve_reversed (spec : Spec) (hSingle : spec.referencedEntities = [a])
    (hApart : r.leftEntity ≠ r.rightEntity) :
    { spec with relationship := some r.reversed }.resolve c maxLimit =
      { spec with relationship := some r }.resolve c maxLimit := by
  have hReferenced (relationship : Option Relationship) :
      { spec with relationship }.referencedEntities = [a] := hSingle
  simp only [resolve, hReferenced, Catalog.resolveEntities, Catalog.resolveSemiJoin_reversed hApart]
  rfl

/-- For two entities, a turned relationship is accepted alike, and the plans are mirrored. -/
theorem agree_resolve_reversed (spec : Spec) (hDouble : spec.referencedEntities = [a, b])
    (r : Relationship) : Agree Plan.Mirrored
      ({ spec with relationship := some r }.resolve c maxLimit)
      ({ spec with relationship := some r.reversed }.resolve c maxLimit) := by
  have hReferenced (relationship : Option Relationship) :
      { spec with relationship }.referencedEntities = [a, b] := hDouble
  simp only [resolve, hReferenced, Catalog.resolveEntities]
  refine Agree.guard rfl fun _ => Agree.guard rfl fun _ => ?_
  -- Keys, entities, both lists of axes, measures, filters and orders are the same.
  refine .bind_same fun _ => .bind_same fun _ => .bind_same fun _ => .bind_same fun _ => ?_
  refine .bind_same fun _ => .bind_same fun _ => .bind_same fun _ => ?_
  simp only [bind_assoc]
  apply (Catalog.agree_resolveJoin_reversed c r a b).bind
  intro join _ hMirrored
  subst hMirrored
  exact .accepted ⟨join, rfl, rfl⟩

end Spec

/-- What the side that rules and relationships are written from does not change. -/
structure Catalog.DirectionFree (source : Source) (c : Catalog) (maxLimit : UInt64) : Prop where
  /-- The rule for two entities is the same from both of them, apart from the way it is written. -/
  rules : ∀ a b, a ≠ b → c.joinRule? b a = (c.joinRule? a b).map JoinRule.reversed
  /-- Rules may be registered from either side. -/
  registered : ∀ rules others, source.joins = .ok rules →
    List.Forall₂ JoinRule.WrittenAlike rules others →
    ∃ other, Catalog.load { source with joins := .ok others } = .ok other ∧
      ∀ a b, a ≠ b → other.joinRule? a b = c.joinRule? a b
  /-- A relationship may be given from either side to narrow a single entity. -/
  single : ∀ (spec : Spec) (r : Relationship) (a : String), spec.referencedEntities = [a] →
    r.leftEntity ≠ r.rightEntity →
    { spec with relationship := some r.reversed }.resolve c maxLimit =
      { spec with relationship := some r }.resolve c maxLimit
  /-- It may be given from either side to combine two, and then decides which of them comes
  first. -/
  double : ∀ (spec : Spec) (r : Relationship) (a b : String), spec.referencedEntities = [a, b] →
    Agree Plan.Mirrored ({ spec with relationship := some r }.resolve c maxLimit)
      ({ spec with relationship := some r.reversed }.resolve c maxLimit)
  /-- A flipped condition says the same of two rows, however their values are ordered. -/
  conditions : ∀ {α : Type u} [LinearOrder α] (pair : FieldPair) (left right : String → α),
    pair.flipped.Holds right left ↔ pair.Holds left right

/-- No loaded catalog depends on the sides that rules and relationships are written from. -/
theorem directionFree_load {source : Source} {c : Catalog} (hLoad : Catalog.load source = .ok c)
    (maxLimit : UInt64) : Catalog.DirectionFree.{u} source c maxLimit := by
  constructor
  case rules => exact fun a b hApart => c.joinRule?_comm hApart
  case registered =>
    intro rules others hRules hAlike
    obtain ⟨other, hOther, -, -, hJoins⟩ := Catalog.load_of_writtenAlike hLoad hRules hAlike
    exact ⟨other, hOther, fun a b hApart => Catalog.joinRule?_eq_of_writtenAlike hJoins hApart⟩
  case single => exact fun spec r a hSingle hApart => spec.resolve_reversed hSingle hApart
  case double => exact fun spec r a b hDouble => spec.agree_resolve_reversed hDouble r
  case conditions => exact fun pair left right => pair.holds_flipped left right

/-- Goods that came back after they had come in. -/
def Relationship.cameBack (kind : JoinKind) : Relationship where
  leftEntity := "inventory"
  rightEntity := "returns"
  kind := some kind
  pairs := [⟨"sku", "sku", .eq⟩, ⟨"receivedDate", "returnDate", .lt⟩]

/-- The refunds for each value of a field, with a relationship to the other entity. -/
def Spec.refundsBy (entity field : String) (r : Relationship) : Spec where
  dimensions := [{ column := { entity, field }, key := field }]
  measures := [{
    column := { entity := "returns", field := "refundAmount" },
    aggregation := .sum, key := "refund" }]
  relationship := some r

/-- Written from the returns, the same rule is found, the reasons are narrowed alike, and the brands
are joined to the returns on a condition that has changed its sign. -/
theorem directionFree_cameBack : ∃ c other plan join, Catalog.load Registry.builtin.source = .ok c ∧
    c.joinRule? "returns" "inventory" = (c.joinRule? "inventory" "returns").map JoinRule.reversed ∧
    Catalog.load
      { Registry.builtin.source with joins := .ok (Builtin.joins.map JoinRule.reversed) } =
      .ok other ∧ other.joinRule? "inventory" "returns" = c.joinRule? "inventory" "returns" ∧
    (Spec.refundsBy "returns" "reason" (Relationship.cameBack .semi).reversed).resolve c 10 =
      (Spec.refundsBy "returns" "reason" (.cameBack .semi)).resolve c 10 ∧
    (Spec.refundsBy "inventory" "brand" (.cameBack .inner)).resolve c 10 = .ok plan ∧
    (Spec.refundsBy "inventory" "brand" (Relationship.cameBack .inner).reversed).resolve c 10 =
      .ok { plan with anchor := "returns", join := some join } ∧
    join.pairs = [⟨"sku", "sku", .eq⟩, ⟨"returnDate", "receivedDate", .gt⟩] ∧
    (FieldPair.mk "returnDate" "receivedDate" .gt).Holds (fun _ => 9) (fun _ => 5) := by
  have hFree := directionFree_load.{0} Catalog.load_builtin 10
  have hApart : "inventory" ≠ "returns" := by decide
  have hFound := hFree.rules "inventory" "returns" hApart
  obtain ⟨other, hOther, hRule⟩ := hFree.registered _ (Builtin.joins.map JoinRule.reversed) rfl
    (.cons (.inr rfl) .nil)
  have hTurned := hRule "inventory" "returns" hApart
  have hSingle := hFree.single (.refundsBy "returns" "reason" (.cameBack .semi)) (.cameBack .semi)
    "returns" rfl hApart
  have hDouble :=
    hFree.double (.refundsBy "inventory" "brand" (.cameBack .inner)) (.cameBack .inner)
    "inventory" "returns" rfl
  obtain ⟨_, hReversed, join, hJoin, rfl⟩ := hDouble.exists_accepted rfl
  obtain rfl := Option.some.inj hJoin
  have hHolds : (FieldPair.mk "returnDate" "receivedDate" .gt).Holds (fun _ => 9) (fun _ => 5) := by
    apply (hFree.conditions ⟨"receivedDate", "returnDate", .lt⟩ (fun _ => 5) fun _ => 9).mpr
    show 5 < 9
    decide
  exact ⟨.builtin, other, _, _, rfl, hFound, hOther, hTurned, hSingle, rfl, hReversed, rfl, hHolds⟩

end Crosstab
