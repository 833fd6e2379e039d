import Crosstab.Proofs.Except
import Crosstab.Proofs.Sql.Nodes

/-!
Casts in the three dialects. Dialects write the same tokens in the same order except where a cast
stands, so two dialects are as far apart as their casts are: whatever holds between equal tokens and
between the casts of one operand, and is kept when lists are put together, holds between all their
queries. Which casts these are, in which order, is read off from the query.
-/

namespace Crosstab.Sql

def Token.isOfCast : Token → Bool
  | .doubleColon | .type _ | .keyword .cast => true
  | _ => false

/-- Tokens without any that belong to a cast. -/
def CastFree (tokens : List Token) : Prop := ∀ t ∈ tokens, t.isOfCast = false

/-- The operand of a cast, and what it is cast to. -/
def Expr.cast? : Expr → Option (Expr × ValueKind)
  | .cast operand kind => some (operand, kind)
  | _ => none

def castsAmong (nodes : List Expr) : List (Expr × ValueKind) := nodes.filterMap Expr.cast?

/-- The casts that an expression is written with, each before those in its operand. -/
def Expr.casts (e : Expr) : List (Expr × ValueKind) := castsAmong e.nodes

/-- The casts that a query is written with, clause by clause. -/
def Query.casts (query : Query) : List (Expr × ValueKind) := castsAmong query.nodes

/-- A relation between the tokens of two dialects, for the casts that they are written with, that
holds wherever it holds for the casts. -/
structure CastCongruence (d d' : Dialect)
    (R : List (Expr × ValueKind) → List Token → List Token → Prop) : Prop where
  free : ∀ tokens, CastFree tokens → R [] tokens tokens
  append : ∀ {casts casts' xs xs' ys ys'}, R casts xs xs' → R casts' ys ys' →
    R (casts ++ casts') (xs ++ ys) (xs' ++ ys')
  cast : ∀ (e : Expr) (kind : ValueKind), R e.casts (e.tokens d) (e.tokens d') →
    R ((e, kind) :: e.casts) ((Expr.cast e kind).tokens d) ((Expr.cast e kind).tokens d')

section Free

theorem keyword_free (word : Keyword) (h : word ≠ .cast) :
    (Token.keyword word).isOfCast = false := by
  cases word <;> first | rfl | exact absurd rfl h

@[simp] theorem castFree_nil : CastFree [] := by simp [CastFree]

@[simp] theorem castFree_cons {t : Token} {tokens : List Token} :
    CastFree (t :: tokens) ↔ t.isOfCast = false ∧ CastFree tokens := by
  simp [CastFree]

/-- A sign between spaces belongs to no cast if it does not by itself. -/
theorem castFree_spaced {t : Token} (h : t.isOfCast = false) : CastFree [.space, t, .space] :=
  castFree_cons.mpr ⟨rfl, castFree_cons.mpr ⟨h, castFree_cons.mpr ⟨rfl, castFree_nil⟩⟩⟩

@[simp] theorem castFree_negation (negated : Bool) : CastFree (negation negated) := by
  cases negated <;> simp [negation, Token.isOfCast]

@[simp] theorem castFree_naming (name : Option String) : CastFree (naming name) := by
  cases name <;> simp [naming, Token.isOfCast]

@[simp] theorem castFree_qualifier (table : Option String) : CastFree (qualifier table) := by
  cases table <;> simp [qualifier, Token.isOfCast]

@[simp] theorem castFree_directionTokens (direction : Option SortDirection) :
    CastFree (directionTokens direction) := by
  rcases direction with _ | _ | _ <;> simp [directionTokens, Token.isOfCast]

@[simp] theorem TableRef.castFree_tokens (t : TableRef) : CastFree t.tokens := by
  simp [TableRef.tokens, Token.isOfCast]

end Free

section Casts

theorem castsAmong_append (nodes nodes' : List Expr) :
    castsAmong (nodes ++ nodes') = castsAmong nodes ++ castsAmong nodes' :=
  List.filterMap_append

theorem castsAmong_flatMap {α : Type} (f : α → List Expr) (xs : List α) :
    castsAmong (xs.flatMap f) = xs.flatMap fun x => castsAmong (f x) :=
  List.filterMap_flatMap

/-- The casts of a list of expressions are those of each, one after the other. -/
theorem castsAmong_exprNodes (es : List Expr) :
    castsAmong (exprNodes es) = es.flatMap Expr.casts := by
  rw [exprNodes_eq_flatMap, castsAmong_flatMap]
  rfl

end Casts

namespace CastCongruence

variable {d d' : Dialect} {R : List (Expr × ValueKind) → List Token → List Token → Prop}
  {casts casts' : List (Expr × ValueKind)} {xs xs' ys ys' : List Token}
  (h : CastCongruence d d' R)

include h

theorem nil : R [] [] [] := h.free [] castFree_nil

theorem cons {t : Token} (hFree : t.isOfCast = false) (hRest : R casts xs ys) :
    R casts (t :: xs) (t :: ys) :=
  h.append (h.free [t] (by simp [hFree])) hRest

/-- What stands behind other tokens without a cast of its own. -/
theorem followed {tokens : List Token} (hFree : CastFree tokens) (hFront : R casts xs ys) :
    R casts (xs ++ tokens) (ys ++ tokens) := by
  simpa using h.append hFront (h.free tokens hFree)

theorem parenthesized (hInner : R casts xs ys) :
    R casts (parenthesized xs) (parenthesized ys) :=
  h.followed (by simp [Token.isOfCast]) (h.cons rfl hInner)

/-- What stands on the two sides of an operator. -/
theorem operated {t : Token} (hFree : t.isOfCast = false) (hLeft : R casts xs xs')
    (hRight : R casts' ys ys') :
    R (casts ++ casts') (xs ++ [.space, t, .space] ++ ys) (xs' ++ [.space, t, .space] ++ ys') :=
  h.append (h.followed (castFree_spaced hFree) hLeft) hRight

/-- What is tested, with the words of the test. -/
theorem tested {word : Keyword} (hFree : (Token.keyword word).isOfCast = false) (negated : Bool)
    (hOperand : R casts xs ys) :
    R casts (xs ++ negation negated ++ [.space, .keyword word, .space])
      (ys ++ negation negated ++ [.space, .keyword word, .space]) :=
  h.followed (castFree_spaced hFree) (h.followed (castFree_negation negated) hOperand)

section Parts

variable {α : Type} {c : α → List (Expr × ValueKind)} {f g : α → List Token} {parts : List α}

/-- Separators do not add casts. -/
theorem intercalate {separator : List Token} (hFree : CastFree separator)
    (hParts : ∀ part ∈ parts, R (c part) (f part) (g part)) :
    R (parts.flatMap c) (separator.intercalate (parts.map f))
      (separator.intercalate (parts.map g)) := by
  induction parts with
  | nil => exact h.nil
  | cons first rest ih =>
      obtain ⟨hFirst, hRest⟩ := List.forall_mem_cons.mp hParts
      cases rest with
      | nil => simpa [List.intercalate] using hFirst
      | cons next rest =>
          have hFront := h.followed hFree hFirst
          simpa only [List.map_cons, List.intercalate_cons_cons, List.flatMap_cons] using
            h.append hFront (ih hRest)

theorem listed (hParts : ∀ part ∈ parts, R (c part) (f part) (g part)) :
    R (parts.flatMap c) (listed (parts.map f)) (listed (parts.map g)) :=
  h.intercalate (by simp [Token.isOfCast]) hParts

theorem conjoined (hParts : ∀ part ∈ parts, R (c part) (f part) (g part)) :
    R (parts.flatMap c) (conjoined (parts.map f)) (conjoined (parts.map g)) :=
  h.intercalate (by simp [Token.isOfCast]) hParts

/-- A clause has the casts of its parts. -/
theorem clauseOver {word : Keyword} (hWord : (Token.keyword word).isOfCast = false)
    {join : List (List Token) → List Token}
    (hJoin : R (parts.flatMap c) (join (parts.map f)) (join (parts.map g))) :
    R (parts.flatMap c) (clauseOver word join (parts.map f))
      (clauseOver word join (parts.map g)) := by
  cases parts with
  | nil => exact h.nil
  | cons first rest => exact h.cons rfl (h.cons hWord (h.cons rfl hJoin))

theorem flatMap (hParts : ∀ part ∈ parts, R (c part) (f part) (g part)) :
    R (parts.flatMap c) (parts.flatMap f) (parts.flatMap g) := by
  induction parts with
  | nil => exact h.nil
  | cons first rest ih =>
      obtain ⟨hFirst, hRest⟩ := List.forall_mem_cons.mp hParts
      exact h.append hFirst (ih hRest)

end Parts

/-- A join has the casts of its sub-select, and then those of its conditions. -/
theorem joinItem (join : JoinItem)
    (hLateral : ∀ query name, join.source = .lateral query name →
      R query.casts (query.tokens d) (query.tokens d'))
    (hConditions : ∀ e ∈ join.conditions, R e.casts (e.tokens d) (e.tokens d')) :
    R (castsAmong join.nodes) (join.tokens d) (join.tokens d') := by
  have hSource :
      R (castsAmong join.source.nodes) (join.source.tokens d) (join.source.tokens d') := by
    obtain ⟨type, source, conditions⟩ := join
    cases source with
    | table t => exact h.free _ t.castFree_tokens
    | lateral query name =>
        exact h.cons rfl (h.cons rfl
          (h.followed (castFree_naming _) (h.parenthesized (hLateral query name rfl))))
  have hOn : R (castsAmong (exprNodes join.conditions))
      (if join.conditions.isEmpty then [.keyword .true]
        else Sql.conjoined (join.conditions.map (Expr.tokens d)))
      (if join.conditions.isEmpty then [.keyword .true]
        else Sql.conjoined (join.conditions.map (Expr.tokens d'))) := by
    rw [castsAmong_exprNodes]
    split
    next hNone =>
      rw [List.isEmpty_iff.mp hNone]
      exact h.cons rfl h.nil
    next => exact h.conjoined hConditions
  have hType : (Token.keyword join.type.keyword).isOfCast = false := by
    cases join.type <;> rfl
  have hNodes : join.nodes = join.source.nodes ++ exprNodes join.conditions := by
    obtain ⟨type, source, conditions⟩ := join
    rw [JoinItem.nodes]
  rw [JoinItem.tokens_eq, JoinItem.tokens_eq, hNodes, castsAmong_append]
  exact h.cons hType (h.cons rfl (h.cons rfl (h.cons rfl
    (h.append hSource (h.cons rfl (h.cons rfl (h.cons rfl hOn)))))))

/-- A query has the casts of its clauses, one clause after the other. -/
theorem ofClauses (query : Query)
    (hItems : ∀ item ∈ query.items,
      R item.expr.casts (item.expr.tokens d) (item.expr.tokens d'))
    (hJoins : ∀ join ∈ query.joins, R (castsAmong join.nodes) (join.tokens d) (join.tokens d'))
    (hConditions : ∀ e ∈ query.conditions, R e.casts (e.tokens d) (e.tokens d'))
    (hGroups : ∀ e ∈ query.groups, R e.casts (e.tokens d) (e.tokens d'))
    (hOrders : ∀ order ∈ query.orders,
      R order.expr.casts (order.expr.tokens d) (order.expr.tokens d')) :
    R query.casts (query.tokens d) (query.tokens d') := by
  have hComma : CastFree [Token.comma] := by simp [Token.isOfCast]
  have hSelect := h.intercalate hComma fun item hMem => h.cons (t := .newline) rfl
    (h.cons (t := .indent 1) rfl (h.followed (castFree_naming item.name) (hItems item hMem)))
  have hFrom : CastFree (query.source.elim [] fun t => clause .fromKeyword t.tokens) := by
    cases query.source <;> simp [clause, Token.isOfCast]
  have hJoin := h.flatMap fun join hMem => h.cons (t := .newline) rfl (hJoins join hMem)
  have hWhere := h.clauseOver (keyword_free .whereKeyword (by decide)) (h.conjoined hConditions)
  have hGroupBy := h.clauseOver (keyword_free .groupBy (by decide)) (h.listed hGroups)
  have hOrderBy := h.clauseOver (keyword_free .orderBy (by decide))
    (h.listed fun order hMem =>
      h.followed (castFree_directionTokens order.direction) (hOrders order hMem))
  have hLimit : CastFree (query.limit.elim [] fun n => .newline :: limitTokens n) := by
    cases query.limit <;> simp [limitTokens, Token.isOfCast]
  obtain ⟨items, source, joins, conditions, groups, orders, limit⟩ := query
  simp only [Query.casts, Query.nodes, castsAmong_append, castsAmong_exprNodes,
    itemNodes_eq_flatMap, joinNodes_eq_flatMap, orderNodes_eq_flatMap, castsAmong_flatMap,
    Query.tokens_eq]
  refine h.cons rfl (h.followed hLimit ?_)
  exact h.append (h.append (h.append (h.append (h.followed hFrom hSelect) hJoin) hWhere)
    hGroupBy) hOrderBy

/-- The induction behind `CastCongruence.query`: parts are put together as the renderer puts
them. -/
theorem cases : SyntaxCases (fun e => R e.casts (e.tokens d) (e.tokens d'))
    (fun query => R query.casts (query.tokens d) (query.tokens d')) where
  column table name := by
    simp only [Expr.tokens]
    exact h.append (h.free _ (castFree_qualifier table)) (h.cons rfl h.nil)
  int n := h.cons rfl h.nil
  text s := h.cons rfl h.nil
  param n := h.cons rfl h.nil
  compare c left right hLeft hRight := by
    have hCasts : (Expr.compare c left right).casts = left.casts ++ right.casts :=
      castsAmong_append left.nodes right.nodes
    simp only [hCasts, Expr.tokens]
    exact h.operated (t := .comparator c) rfl hLeft hRight
  and left right hLeft hRight := by
    have hCasts : (Expr.and left right).casts = left.casts ++ right.casts :=
      castsAmong_append left.nodes right.nodes
    simp only [hCasts, Expr.tokens]
    exact h.operated (t := .keyword .and) rfl hLeft hRight
  call function distinct arguments hArguments := by
    have hCasts : (Expr.call function distinct arguments).casts = arguments.flatMap Expr.casts :=
      castsAmong_exprNodes arguments
    have hDistinct : CastFree (if distinct then [.keyword .distinct, .space] else []) := by
      cases distinct <;> simp [Token.isOfCast]
    simp only [hCasts, Expr.tokens, exprTokens_eq_map]
    exact h.cons rfl (h.parenthesized (h.append (h.free _ hDistinct) (h.listed hArguments)))
  cast operand kind hOperand := h.cast operand kind hOperand
  nonempty query hQuery := by
    have hCasts : (Expr.nonempty query).casts = query.casts := rfl
    simp only [hCasts, Expr.tokens]
    exact h.cons rfl (h.cons rfl (h.parenthesized hQuery))
  scalar query hQuery := by
    have hCasts : (Expr.scalar query).casts = query.casts := rfl
    simp only [hCasts, Expr.tokens]
    exact h.parenthesized hQuery
  among negated operand values hOperand hValues := by
    cases values with
    | nil =>
        have hNever : (Token.keyword (if negated then .true else .false)).isOfCast = false := by
          cases negated <;> rfl
        simp only [Expr.tokens]
        exact h.cons hNever h.nil
    | cons value values =>
        have hCasts : (Expr.among negated operand (value :: values)).casts =
            operand.casts ++ (value :: values).flatMap Expr.casts := by
          rw [← castsAmong_exprNodes]
          exact castsAmong_append operand.nodes _
        have hWord : (Token.keyword .inKeyword).isOfCast = false := rfl
        have hList := h.listed hValues
        simp only [hCasts, Expr.tokens, exprTokens_eq_map]
        exact h.append (h.tested hWord negated hOperand) (h.parenthesized hList)
  between negated operand low high hOperand hLow hHigh := by
    have hCasts : (Expr.between negated operand low high).casts =
        operand.casts ++ low.casts ++ high.casts := by
      rw [Expr.casts, Expr.casts, Expr.casts, ← castsAmong_append, Expr.casts, ← castsAmong_append]
      rfl
    have hWord : (Token.keyword .between).isOfCast = false := rfl
    simp only [hCasts, Expr.tokens]
    exact h.operated (t := .keyword .and) rfl
      (h.append (h.tested hWord negated hOperand) hLow) hHigh
  isNull negated operand hOperand := by
    have hCasts : (Expr.isNull negated operand).casts = operand.casts := rfl
    have hTest : CastFree [.space, .keyword (if negated then .isNotNull else .isNull)] := by
      cases negated <;> simp [Token.isOfCast]
    simp only [hCasts, Expr.tokens]
    exact h.followed hTest hOperand
  like negated operand pattern escape hOperand hPattern := by
    have hCasts : (Expr.like negated operand pattern escape).casts =
        operand.casts ++ pattern.casts :=
      castsAmong_append operand.nodes pattern.nodes
    have hEscape :
        CastFree [.space, .keyword .escape, .space, .text (String.singleton escape)] := by
      simp [Token.isOfCast]
    have hWord : (Token.keyword .like).isOfCast = false := rfl
    simp only [hCasts, Expr.tokens]
    exact h.followed hEscape (h.append (h.tested hWord negated hOperand) hPattern)
  star table := by
    simp only [Expr.tokens]
    exact h.append (h.free _ (castFree_qualifier table)) (h.cons rfl h.nil)
  paren inner hInner := by
    have hCasts : (Expr.paren inner).casts = inner.casts := rfl
    simp only [hCasts, Expr.tokens]
    exact h.parenthesized hInner
  query items source joins conditions groups orders limit hItems hJoins hConditions hGroups
      hOrders :=
    h.ofClauses ⟨items, source, joins, conditions, groups, orders, limit⟩ hItems
      (fun join hMem => h.joinItem join (hJoins join hMem).1 (hJoins join hMem).2) hConditions
      hGroups hOrders

/-- What holds for the casts of a query holds for the query. -/
theorem query (query : Query) : R query.casts (query.tokens d) (query.tokens d') :=
  h.cases.ofQuery query

end CastCongruence

/-- Equal tokens, or the names of one type in the two dialects that write casts behind their
operands. -/
def Token.SameButType (t u : Token) : Prop :=
  t = u ∨ ∃ kind, t = .type (Dialect.postgres.typeName kind) ∧
    u = .type (Dialect.duckdb.typeName kind)

/-- The one dialect names some types otherwise than the other. -/
theorem castCongruence_types :
    CastCongruence .postgres .duckdb fun _ => List.Forall₂ Token.SameButType where
  free tokens _ := List.forall₂_same.mpr fun _ _ => .inl rfl
  append hFront hBack := List.rel_append hFront hBack
  cast e kind hOperand := by
    have hFixed (t : Token) : t.SameButType t := .inl rfl
    have hType : List.Forall₂ Token.SameButType
        [.doubleColon, .type (Dialect.postgres.typeName kind)]
        [.doubleColon, .type (Dialect.duckdb.typeName kind)] :=
      .cons (hFixed _) (.cons (.inr ⟨kind, rfl, rfl⟩) .nil)
    simp only [Expr.tokens, castTokens, Dialect.hasPostfixCast, if_true]
    refine List.rel_append ?_ hType
    split
    · exact hOperand
    · exact List.rel_append (.cons (hFixed _) hOperand) (.cons (hFixed _) .nil)

/-- The two dialects that write casts behind their operands differ in the names of types only. -/
theorem Query.tokens_sameButType (query : Query) :
    List.Forall₂ Token.SameButType (query.tokens .postgres) (query.tokens .duckdb) :=
  castCongruence_types.query query

/-- The operand of a cast that is written behind it. -/
def Expr.postfixOperand (e : Expr) : List Token :=
  if e.isAtomic then e.tokens .postgres else parenthesized (e.tokens .postgres)

/-- Tokens with given casts behind their operands, and the same tokens with each of these casts
written around its operand instead: as a call for dates, and else with the keyword. In an operand
the casts are written anew as well, and no other token belongs to a cast. -/
inductive Recast : List (Expr × ValueKind) → List Token → List Token → Prop
  | nil : Recast [] [] []
  | token {casts : List (Expr × ValueKind)} {t : Token} {xs ys : List Token}
      (hFree : t.isOfCast = false) (rest : Recast casts xs ys) : Recast casts (t :: xs) (t :: ys)
  | date {casts : List (Expr × ValueKind)} {e : Expr} {inner xs ys : List Token}
      (operand : Recast e.casts (e.tokens .postgres) inner) (rest : Recast casts xs ys) :
      Recast ((e, .date) :: (e.casts ++ casts))
        (e.postfixOperand ++ .doubleColon :: .type (Dialect.postgres.typeName .date) :: xs)
        (.function "DATE" :: .leftParen :: (inner ++ .rightParen :: ys))
  | cast {casts : List (Expr × ValueKind)} {e : Expr} {kind : ValueKind} {inner xs ys : List Token}
      (hKind : kind ≠ .date) (operand : Recast e.casts (e.tokens .postgres) inner)
      (rest : Recast casts xs ys) :
      Recast ((e, kind) :: (e.casts ++ casts))
        (e.postfixOperand ++ .doubleColon :: .type (Dialect.postgres.typeName kind) :: xs)
        (.keyword .cast :: .leftParen :: (inner ++ .space :: .keyword .asKeyword :: .space ::
          .type (Dialect.sqlite.typeName kind) :: .rightParen :: ys))

namespace Recast

variable {casts casts' : List (Expr × ValueKind)} {xs xs' ys ys' : List Token}

/-- Tokens without casts become themselves. -/
theorem free {tokens : List Token} (h : CastFree tokens) : Recast [] tokens tokens := by
  induction tokens with
  | nil => exact .nil
  | cons t rest ih =>
      rw [castFree_cons] at h
      exact .token h.1 (ih h.2)

/-- What is written anew can be put together. -/
theorem append (h : Recast casts xs xs') (hRest : Recast casts' ys ys') :
    Recast (casts ++ casts') (xs ++ ys) (xs' ++ ys') := by
  induction h with
  | nil => exact hRest
  | token hFree _ ih => exact .token hFree ih
  | date operand _ _ ih => simpa using Recast.date operand ih
  | cast hKind operand _ _ ih => simpa using Recast.cast hKind operand ih

/-- The third dialect writes casts around their operands. -/
theorem castCongruence : CastCongruence .postgres .sqlite Recast where
  free _ := free
  append := append
  cast e kind operand := by
    simp only [Expr.tokens, castTokens, Dialect.hasPostfixCast, if_true, Bool.false_eq_true,
      if_false]
    by_cases hKind : kind = .date
    · subst hKind
      simpa [Expr.postfixOperand, parenthesized] using Recast.date operand .nil
    · simpa [Expr.postfixOperand, parenthesized, hKind] using Recast.cast hKind operand .nil

/-- Without casts nothing is written anew. -/
theorem eq_of_nil (h : Recast [] xs ys) : CastFree xs ∧ ys = xs := by
  generalize hNone : ([] : List (Expr × ValueKind)) = casts at h
  induction h with
  | nil => exact ⟨castFree_nil, rfl⟩
  | token hFree _ ih =>
      obtain ⟨hRest, rfl⟩ := ih hNone
      exact ⟨castFree_cons.mpr ⟨hFree, hRest⟩, rfl⟩
  | date | cast => cases hNone

/-- The first cast stands behind tokens that belong to none. -/
theorem exists_of_cons {e : Expr} {kind : ValueKind} (h : Recast ((e, kind) :: casts) xs ys) :
    ∃ front inner rest others around, CastFree front ∧ casts = e.casts ++ others ∧
      xs = front ++ (e.postfixOperand ++
        .doubleColon :: .type (Dialect.postgres.typeName kind) :: rest) ∧
      Recast e.casts (e.tokens .postgres) inner ∧ Recast others rest around ∧
      ys = front ++ (castTokens .sqlite e.isAtomic inner kind ++ around) := by
  generalize hSome : (e, kind) :: casts = all at h
  induction h with
  | nil => cases hSome
  | token hFree _ ih =>
      obtain ⟨front, inner, rest, others, around, hFront, hCasts, rfl, hOperand, hRest, rfl⟩ :=
        ih hSome
      exact ⟨_ :: front, inner, rest, others, around, castFree_cons.mpr ⟨hFree, hFront⟩, hCasts,
        rfl, hOperand, hRest, rfl⟩
  | @date others first inner rest around operand hRest _ =>
      cases hSome
      refine ⟨[], inner, rest, others, around, castFree_nil, rfl, rfl, operand, hRest, ?_⟩
      simp [castTokens, Dialect.hasPostfixCast, parenthesized]
  | @cast others first kind inner rest around hKind operand hRest _ =>
      cases hSome
      refine ⟨[], inner, rest, others, around, castFree_nil, rfl, rfl, operand, hRest, ?_⟩
      simp [castTokens, Dialect.hasPostfixCast, parenthesized, hKind]

/-- A sign that does not stand in front of what is before it stands in one place. -/
theorem front_unique {sign : Token} {front front' before rest rest' : List Token}
    (h : sign ∉ front) (h' : sign ∉ front')
    (hEq : front ++ (before ++ sign :: rest) = front' ++ (before ++ sign :: rest')) :
    front = front' ∧ rest = rest' := by
  -- If the one front were shorter, one more sign would stand within the same number of tokens.
  have hLength {xs xs' ys ys' : List Token} (hxs' : sign ∉ xs')
      (hSame : xs ++ (before ++ sign :: ys) = xs' ++ (before ++ sign :: ys')) :
      xs'.length ≤ xs.length := by
    by_contra hShort
    have hLeft : (xs ++ (before ++ sign :: ys)).take (xs.length + before.length + 1) =
        xs ++ (before ++ [sign]) := by
      rw [← List.append_assoc, List.take_append, List.take_of_length_le (by simp)]
      simp
    have hRight : (xs' ++ (before ++ sign :: ys')).take (xs.length + before.length + 1) <+:
        xs' ++ before := by
      rw [← List.append_assoc, List.take_append_of_le_length (by simp; omega)]
      exact List.take_prefix _ _
    rw [← hSame, hLeft] at hRight
    have hCount := hRight.sublist.count_le sign
    simp only [List.count_append, List.count_singleton_self, List.count_eq_zero_of_not_mem hxs']
      at hCount
    omega
  have hSame : front.length = front'.length := Nat.le_antisymm (hLength h hEq.symm) (hLength h' hEq)
  obtain ⟨hFront, hRest⟩ := List.append_inj hEq hSame
  exact ⟨hFront, (List.cons.inj (List.append_cancel_left hRest)).2⟩

/-- What tokens become is determined by the casts. -/
theorem unique {zs : List Token} (h : Recast casts xs ys) (hOther : Recast casts xs zs) :
    zs = ys := by
  induction hSize : casts.length using Nat.strongRecOn generalizing casts xs ys zs with
  | ind size ih =>
  cases casts with
  | nil => rw [h.eq_of_nil.2, hOther.eq_of_nil.2]
  | cons first casts =>
      obtain ⟨e, kind⟩ := first
      obtain ⟨front, inner, rest, others, around, hFree, rfl, rfl, hOperand, hRest, rfl⟩ :=
        h.exists_of_cons
      obtain ⟨front', inner', rest', others', around', hFree', hCasts, hTokens, hOperand', hRest',
        rfl⟩ := hOther.exists_of_cons
      obtain rfl := List.append_cancel_left hCasts
      have hSign {tokens : List Token} (hNone : CastFree tokens) : Token.doubleColon ∉ tokens :=
        fun hMem => Bool.noConfusion (hNone _ hMem)
      obtain ⟨rfl, hTail⟩ := front_unique (hSign hFree) (hSign hFree') hTokens
      obtain ⟨-, rfl⟩ := List.cons.inj hTail
      rw [List.length_cons, List.length_append] at hSize
      rw [ih e.casts.length (by omega) hOperand hOperand' rfl,
        ih others.length (by omega) hRest hRest' rfl]

end Recast

/-- Where the one dialect writes a cast of a query behind its operand, the other writes it around
the operand, and nothing else differs. -/
theorem Query.tokens_recast (query : Query) :
    Recast query.casts (query.tokens .postgres) (query.tokens .sqlite) :=
  Recast.castCongruence.query query

end Crosstab.Sql
