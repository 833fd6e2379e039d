import Crosstab.Catalog.Basic

/-!
Rules for two entities. Which rule counts does not depend on the side from which the two are named;
only the way in which it is written does.
-/

namespace Crosstab

namespace JoinRule

/-- Whether the rule is for two entities, whichever of them comes first. -/
def connects (rule : JoinRule) (a b : String) : Bool :=
  (rule.source = a && rule.target = b) || (rule.source = b && rule.target = a)

/-- The rule written from the side of an entity. -/
def seenFrom (rule : JoinRule) (entity : String) : JoinRule :=
  if rule.source = entity then rule else rule.reversed

variable {rule : JoinRule} {a b : String}

theorem connects_comm : rule.connects a b = rule.connects b a := by
  simp only [connects, Bool.or_comm]

/-- A rule is turned just if it connects the two entities. -/
theorem oriented?_eq : rule.oriented? a b =
    if rule.connects a b then some (rule.seenFrom a) else none := by
  unfold oriented? connects seenFrom
  by_cases hSource : rule.source = a
  · by_cases hTarget : rule.target = b
    · simp [hSource, hTarget]
    · have hOther : ¬(a = b ∧ rule.target = a) := fun h => hTarget (h.2.trans h.1)
      simp [hSource, hTarget, hOther]
  · simp [hSource]

@[simp] theorem isDefault_seenFrom : (rule.seenFrom a).isDefault = rule.isDefault := by
  unfold seenFrom
  split <;> rfl

@[simp] theorem supports_seenFrom (kind : JoinKind) :
    (rule.seenFrom a).supports kind = rule.supports kind := by
  unfold seenFrom
  split <;> rfl

end JoinRule

namespace Catalog

variable {c : Catalog} {a b : String}

/-- The rule that counts for two entities: the first preferred one or, if none is preferred, the
first of all. -/
def ruleFor? (c : Catalog) (a b : String) : Option JoinRule :=
  let rules := c.joins.filter fun rule => rule.connects a b
  (rules.find? JoinRule.isDefault).or rules.head?

/-- The search for a rule does not ask which entity comes first. -/
theorem ruleFor?_comm : c.ruleFor? a b = c.ruleFor? b a := by
  have hSame : (fun rule : JoinRule => rule.connects a b) = fun rule => rule.connects b a :=
    funext fun _ => JoinRule.connects_comm
  rw [ruleFor?, hSame, ruleFor?]

/-- The rule that is found connects the two entities. -/
theorem connects_of_ruleFor? {rule : JoinRule} (h : c.ruleFor? a b = some rule) :
    rule.connects a b := by
  have hMem : rule ∈ c.joins.filter fun rule => rule.connects a b := by
    rcases Option.or_eq_some_iff.mp h with hPreferred | ⟨-, hFirst⟩
    · exact List.mem_of_find?_eq_some hPreferred
    · exact List.mem_of_head? hFirst
  exact (List.mem_filter.mp hMem).2

/-- Of all rules, those for the two entities are left, each turned. -/
theorem filterMap_oriented? (rules : List JoinRule) :
    rules.filterMap (fun rule => rule.oriented? a b) =
      (rules.filter fun rule => rule.connects a b).map fun rule => rule.seenFrom a := by
  induction rules with
  | nil => rfl
  | cons rule rules ih =>
      rw [List.filterMap_cons, JoinRule.oriented?_eq, List.filter_cons]
      cases rule.connects a b <;> simp [ih]

/-- The rule that a catalog gives for two entities is the one that counts, written from the
first. -/
theorem joinRule?_eq : c.joinRule? a b = (c.ruleFor? a b).map fun rule => rule.seenFrom a := by
  simp only [joinRule?, ruleFor?, filterMap_oriented?, List.find?_map,
    List.head?_map, Option.map_or]
  congr 3
  funext rule
  exact JoinRule.isDefault_seenFrom

end Catalog

end Crosstab
