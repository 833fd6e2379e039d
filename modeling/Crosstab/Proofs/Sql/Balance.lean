import Crosstab.Proofs.Sql.Nesting
import Crosstab.Proofs.Sql.Placeholders

/-!
What every dialect keeps of an expression or a query, of whatever shape: the numbers of its
parameters in their order, and parentheses that close in the order in which they opened.
-/

namespace Crosstab.Sql

/-- How many parentheses tokens leave open. -/
def parenDepth (tokens : List Token) : Int :=
  (tokens.count .leftParen : Int) - tokens.count .rightParen

/-- Whether parentheses are balanced: none closes before it is opened, and all are closed in the
end. -/
structure Balanced (tokens : List Token) : Prop where
  front : ∀ front, front <+: tokens → 0 ≤ parenDepth front
  all : parenDepth tokens = 0

theorem parenDepth_append (xs ys : List Token) :
    parenDepth (xs ++ ys) = parenDepth xs + parenDepth ys := by
  simp only [parenDepth, List.count_append]
  omega

theorem parenDepth_of_isFlat {t : Token} (h : t.isFlat) : parenDepth [t] = 0 := by
  obtain ⟨hLeft, hRight⟩ : t ≠ .leftParen ∧ t ≠ .rightParen := by simpa [Token.isFlat] using h
  simp [parenDepth, hLeft, hRight]

namespace Balanced

variable {xs ys : List Token}

theorem nil : Balanced [] :=
  ⟨fun front hFront => by simp [List.prefix_nil.mp hFront, parenDepth], rfl⟩

theorem token {t : Token} (h : t.isFlat) : Balanced [t] := by
  have hDepth := parenDepth_of_isFlat h
  refine ⟨fun front hFront => ?_, hDepth⟩
  rcases List.prefix_cons_iff.mp hFront with rfl | ⟨rest, rfl, hRest⟩
  · exact Int.le_refl 0
  · rw [List.prefix_nil.mp hRest]
    exact Int.le_of_eq hDepth.symm

/-- What is balanced can be put together. -/
theorem append (hLeft : Balanced xs) (hRight : Balanced ys) : Balanced (xs ++ ys) := by
  constructor
  case front =>
    intro front hFront
    rw [List.prefix_iff_eq_take.mp hFront, List.take_append, parenDepth_append]
    have hFirst := hLeft.front _ (List.take_prefix front.length xs)
    have hSecond := hRight.front _ (List.take_prefix (front.length - xs.length) ys)
    omega
  case all => rw [parenDepth_append, hLeft.all, hRight.all, Int.add_zero]

/-- Balanced tokens stay balanced in parentheses. -/
theorem parenthesized (h : Balanced xs) : Balanced (parenthesized xs) := by
  have hOpen : parenDepth [.leftParen] = 1 := rfl
  have hClose : parenDepth [.rightParen] = -1 := rfl
  have hSplit : Sql.parenthesized xs = [.leftParen] ++ (xs ++ [.rightParen]) := rfl
  constructor
  case front =>
    intro front hFront
    rw [hSplit] at hFront
    rcases List.prefix_cons_iff.mp hFront with rfl | ⟨rest, rfl, hRest⟩
    · exact Int.le_refl 0
    · -- The parenthesis that was opened is closed by the last token at the earliest.
      have hInner : 0 ≤ parenDepth rest + 1 := by
        rcases List.prefix_concat_iff.mp hRest with rfl | hWithin
        · rw [parenDepth_append, h.all, hClose]
          omega
        · have hNonneg := h.front rest hWithin
          omega
      rw [← List.singleton_append, parenDepth_append, hOpen]
      omega
  case all =>
    rw [hSplit, parenDepth_append, parenDepth_append, hOpen, hClose, h.all]
    omega

end Balanced

/-- Nested tokens are balanced. -/
theorem Nested.balanced {allowed : Token → Bool} {tokens : List Token} (h : Nested allowed tokens)
    (hAllowed : ∀ t, allowed t → t.isFlat) : Balanced tokens := by
  induction h with
  | nil => exact .nil
  | token hToken _ ih => exact .append (.token (hAllowed _ hToken)) (ih hAllowed)
  | group _ _ ihInner ihRest =>
      have hInner := ihInner fun _ hFlat => hFlat
      exact .append hInner.parenthesized (ihRest hAllowed)

/-- What the renderings of one thing in all dialects have in common. -/
structure Renders (tokens : Dialect → List Token) (indices : List Nat) : Prop where
  /-- No dialect moves, drops or repeats a placeholder. -/
  alike : ∀ d d', placeholders (tokens d) = placeholders (tokens d')
  placeholders : ∀ d, placeholders (tokens d) = indices
  balanced : ∀ d, Balanced (tokens d)

/-- All dialects render alike if each of them renders with the same placeholders. -/
theorem Renders.of_each {tokens : Dialect → List Token} {indices : List Nat}
    (hPlaceholders : ∀ d, Sql.placeholders (tokens d) = indices)
    (hBalanced : ∀ d, Balanced (tokens d)) : Renders tokens indices :=
  ⟨fun d d' => (hPlaceholders d).trans (hPlaceholders d').symm, hPlaceholders, hBalanced⟩

/-- Whatever an expression or a query holds, all dialects write its parameters in their order, but
for what is tested against an empty list and not written at all, and no parenthesis is left over. -/
theorem renders_tokens :
    (∀ e : Expr, Renders (fun d => e.tokens d) (parameters e.nodes)) ∧
    ∀ query : Query, Renders (fun d => query.tokens d) (parameters query.nodes) := by
  constructor
  · intro e
    apply Renders.of_each
    · exact fun d => e.placeholders_tokens d
    · exact fun d => (e.shaped d).nested.balanced fun _ => Token.isFlat_of_isPart
  · intro query
    apply Renders.of_each
    · exact fun d => query.placeholders_tokens d
    · exact fun d => (query.shaped d).flat.balanced fun _ hFlat => hFlat

end Crosstab.Sql
