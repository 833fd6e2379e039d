import Crosstab.Proofs.Sql.Nodes

/-!
The placeholders of a statement. Dialects write casts differently, but none of them moves, drops or
repeats an operand, so the numbers of the placeholders are those of the parameters in the
expression.
-/

namespace Crosstab.Sql

@[simp] def Token.index? : Token → Option Nat
  | .placeholder n => some n
  | _ => none

@[simp] def Expr.index? : Expr → Option Nat
  | .param n => some n
  | _ => none

/-- The numbers of the placeholders among tokens, from left to right. -/
def placeholders (tokens : List Token) : List Nat := tokens.filterMap Token.index?

/-- The numbers of the parameters among expressions. -/
def parameters (es : List Expr) : List Nat := es.filterMap Expr.index?

@[simp] theorem placeholders_nil : placeholders [] = [] := rfl

@[simp] theorem placeholders_cons (t : Token) (tokens : List Token) :
    placeholders (t :: tokens) = t.index?.toList ++ placeholders tokens := by
  rw [placeholders, List.filterMap_cons]
  cases t.index? <;> rfl

@[simp] theorem placeholders_append (xs ys : List Token) :
    placeholders (xs ++ ys) = placeholders xs ++ placeholders ys :=
  List.filterMap_append

@[simp] theorem parameters_nil : parameters [] = [] := rfl

@[simp] theorem parameters_cons (e : Expr) (es : List Expr) :
    parameters (e :: es) = e.index?.toList ++ parameters es := by
  rw [parameters, List.filterMap_cons]
  cases e.index? <;> rfl

@[simp] theorem parameters_append (xs ys : List Expr) :
    parameters (xs ++ ys) = parameters xs ++ parameters ys :=
  List.filterMap_append

theorem parameters_flatMap {α : Type} (f : α → List Expr) (xs : List α) :
    parameters (xs.flatMap f) = xs.flatMap fun x => parameters (f x) :=
  List.filterMap_flatMap

/-- Separators without placeholders do not count. -/
theorem placeholders_intercalate {separator : List Token} (h : placeholders separator = [])
    (parts : List (List Token)) :
    placeholders (separator.intercalate parts) = parts.flatMap placeholders := by
  induction parts with
  | nil => rfl
  | cons part rest ih =>
      cases rest with
      | nil => simp [List.intercalate]
      | cons next rest =>
          rw [List.intercalate_cons_cons, placeholders_append, placeholders_append, h, ih]
          simp

@[simp] theorem placeholders_parenthesized (tokens : List Token) :
    placeholders (parenthesized tokens) = placeholders tokens := by
  simp [parenthesized]

/-- Lists have the placeholders of their members. -/
@[simp] theorem placeholders_listed (parts : List (List Token)) :
    placeholders (listed parts) = parts.flatMap placeholders :=
  placeholders_intercalate rfl parts

/-- Joined conditions have the placeholders of each. -/
@[simp] theorem placeholders_conjoined (parts : List (List Token)) :
    placeholders (conjoined parts) = parts.flatMap placeholders :=
  placeholders_intercalate rfl parts

@[simp] theorem placeholders_clause (word : Keyword) (body : List Token) :
    placeholders (clause word body) = placeholders body := by
  simp [clause]

/-- A clause has the placeholders of its parts. -/
@[simp] theorem placeholders_clauseOver (word : Keyword) {join : List (List Token) → List Token}
    (h : ∀ parts, placeholders (join parts) = parts.flatMap placeholders)
    (parts : List (List Token)) :
    placeholders (clauseOver word join parts) = parts.flatMap placeholders := by
  cases parts with
  | nil => rfl
  | cons part rest => simp [clauseOver, h]

@[simp] theorem placeholders_negation (negated : Bool) : placeholders (negation negated) = [] := by
  cases negated <;> rfl

@[simp] theorem placeholders_naming (name : Option String) : placeholders (naming name) = [] := by
  cases name <;> rfl

@[simp] theorem placeholders_qualifier (table : Option String) :
    placeholders (qualifier table) = [] := by
  cases table <;> rfl

@[simp] theorem placeholders_directionTokens (direction : Option SortDirection) :
    placeholders (directionTokens direction) = [] := by
  rcases direction with _ | _ | _ <;> rfl

@[simp] theorem TableRef.placeholders_tokens (t : TableRef) : placeholders t.tokens = [] := by
  simp [TableRef.tokens]

/-- A cast keeps its operand, whichever way the dialect writes it. -/
@[simp] theorem placeholders_castTokens (d : Dialect) (atomic : Bool) (operand : List Token)
    (kind : ValueKind) :
    placeholders (castTokens d atomic operand kind) = placeholders operand := by
  unfold castTokens
  split
  · cases atomic <;> simp
  · split <;> simp

/-- What holds of each expression holds of a list of them. -/
theorem placeholders_of_parts {d : Dialect} {es : List Expr}
    (h : ∀ e ∈ es, placeholders (e.tokens d) = parameters e.nodes) :
    (es.map (Expr.tokens d)).flatMap placeholders = parameters (exprNodes es) := by
  rw [exprNodes_eq_flatMap, List.flatMap_map, parameters_flatMap]
  exact List.flatMap_congr h

/-- A join has the placeholders of its sub-select, and then those of its conditions. -/
theorem JoinItem.placeholders_tokens {d : Dialect} (join : JoinItem)
    (hLateral : ∀ query name, join.source = .lateral query name →
      placeholders (query.tokens d) = parameters query.nodes)
    (hConditions : ∀ e ∈ join.conditions, placeholders (e.tokens d) = parameters e.nodes) :
    placeholders (join.tokens d) = parameters join.nodes := by
  rw [JoinItem.tokens_eq]
  obtain ⟨type, source, conditions⟩ := join
  have hSource : placeholders (source.tokens d) = parameters source.nodes := by
    cases source with
    | table t => simp [JoinSource.tokens, JoinSource.nodes]
    | lateral query name =>
        simp [JoinSource.tokens, JoinSource.nodes, hLateral query name rfl]
  have hOn := placeholders_of_parts hConditions
  cases conditions <;> simp_all [JoinItem.nodes, exprNodes]

/-- A query has the placeholders of its clauses, one clause after the other. -/
theorem Query.placeholders_of_clauses {d : Dialect} (query : Query)
    (hItems : ∀ item ∈ query.items,
      placeholders (item.expr.tokens d) = parameters item.expr.nodes)
    (hJoins : ∀ join ∈ query.joins, placeholders (join.tokens d) = parameters join.nodes)
    (hConditions : ∀ e ∈ query.conditions, placeholders (e.tokens d) = parameters e.nodes)
    (hGroups : ∀ e ∈ query.groups, placeholders (e.tokens d) = parameters e.nodes)
    (hOrders : ∀ order ∈ query.orders,
      placeholders (order.expr.tokens d) = parameters order.expr.nodes) :
    placeholders (query.tokens d) = parameters query.nodes := by
  have hSelect : (query.items.map fun item => Token.newline :: .indent 1 ::
      (item.expr.tokens d ++ naming item.name)).flatMap placeholders =
        parameters (itemNodes query.items) := by
    rw [itemNodes_eq_flatMap, List.flatMap_map, parameters_flatMap]
    apply List.flatMap_congr
    intro item hMem
    simp [hItems item hMem]
  have hJoin : placeholders (query.joins.flatMap fun join => .newline :: join.tokens d) =
      parameters (joinNodes query.joins) := by
    rw [joinNodes_eq_flatMap, parameters_flatMap, placeholders, List.filterMap_flatMap]
    apply List.flatMap_congr
    intro join hMem
    exact hJoins join hMem
  have hOrderBy : (query.orders.map fun order =>
      order.expr.tokens d ++ directionTokens order.direction).flatMap placeholders =
        parameters (orderNodes query.orders) := by
    rw [orderNodes_eq_flatMap, List.flatMap_map, parameters_flatMap]
    apply List.flatMap_congr
    intro order hMem
    simp [hOrders order hMem]
  have hComma : placeholders [Token.comma] = [] := rfl
  have hFrom : placeholders (query.source.elim [] fun t => clause .fromKeyword t.tokens) = [] := by
    cases query.source <;> simp
  have hLimit : placeholders (query.limit.elim [] fun n => .newline :: limitTokens n) = [] := by
    cases query.limit <;> rfl
  obtain ⟨items, source, joins, conditions, groups, orders, limit⟩ := query
  simp only [Query.tokens_eq, Query.nodes, placeholders_cons, placeholders_append,
    parameters_append, placeholders_intercalate hComma,
    placeholders_clauseOver _ placeholders_conjoined,
    placeholders_clauseOver _ placeholders_listed, hSelect, hJoin, hOrderBy, hFrom, hLimit,
    placeholders_of_parts hConditions, placeholders_of_parts hGroups]
  simp

/-- The induction behind `Expr.placeholders_tokens` and `Query.placeholders_tokens`. -/
theorem placeholders_tokens_cases (d : Dialect) :
    SyntaxCases (fun e => placeholders (e.tokens d) = parameters e.nodes)
      (fun query => placeholders (query.tokens d) = parameters query.nodes) where
  column _ _ := by simp [Expr.tokens, Expr.nodes]
  int _ := rfl
  text _ := rfl
  param _ := rfl
  compare _ _ _ hLeft hRight := by simp [Expr.tokens, Expr.nodes, hLeft, hRight]
  and _ _ hLeft hRight := by simp [Expr.tokens, Expr.nodes, hLeft, hRight]
  call _ distinct arguments h := by
    have hArguments := placeholders_of_parts h
    cases distinct <;> simp [Expr.tokens, Expr.nodes, exprTokens_eq_map, hArguments]
  cast _ _ h := by simp [Expr.tokens, Expr.nodes, h]
  nonempty _ h := by simp [Expr.tokens, Expr.nodes, h]
  scalar _ h := by simp [Expr.tokens, Expr.nodes, h]
  among negated operand values hOperand h := by
    cases values with
    | nil => cases negated <;> rfl
    | cons value values =>
        have hValues := placeholders_of_parts h
        simp only [exprNodes, List.map_cons, List.flatMap_cons, parameters_append] at hValues
        simp [Expr.tokens, Expr.nodes, exprTokens_eq_map, hOperand, hValues]
  between _ _ _ _ hOperand hLow hHigh := by
    simp [Expr.tokens, Expr.nodes, hOperand, hLow, hHigh]
  isNull _ _ h := by simp [Expr.tokens, Expr.nodes, h]
  like _ _ _ _ hOperand hPattern := by simp [Expr.tokens, Expr.nodes, hOperand, hPattern]
  star _ := by simp [Expr.tokens, Expr.nodes]
  paren _ h := by simp [Expr.tokens, Expr.nodes, h]
  query items source joins conditions groups orders limit hItems hJoins hConditions hGroups
      hOrders :=
    Query.placeholders_of_clauses ⟨items, source, joins, conditions, groups, orders, limit⟩ hItems
      (fun join hMem => join.placeholders_tokens (hJoins join hMem).1 (hJoins join hMem).2)
      hConditions hGroups hOrders

/-- The placeholders of an expression are its parameters, in every dialect. -/
theorem Expr.placeholders_tokens (d : Dialect) (e : Expr) :
    placeholders (e.tokens d) = parameters e.nodes :=
  (placeholders_tokens_cases d).ofExpr e

/-- The placeholders of a query are its parameters, in every dialect. -/
theorem Query.placeholders_tokens (d : Dialect) (query : Query) :
    placeholders (query.tokens d) = parameters query.nodes :=
  (placeholders_tokens_cases d).ofQuery query

end Crosstab.Sql
