import Crosstab.Sql.Render
import Mathlib.Data.List.Basic

/-!
The parts of expressions and queries. An expression holds queries and a query holds expressions, so
whatever is proved of one is proved of both at once; `SyntaxCases` is that induction. `Expr.nodes`
lists the expressions that are written, and what the tokens of a statement hold is read off from
them.
-/

namespace Crosstab.Sql

/-- What has to be shown of each form of expression, and of queries from their parts, to show `P` of
all expressions and `Q` of all queries. -/
structure SyntaxCases (P : Expr → Prop) (Q : Query → Prop) : Prop where
  column : ∀ table name, P (.column table name)
  int : ∀ n, P (.int n)
  text : ∀ s, P (.text s)
  param : ∀ n, P (.param n)
  compare : ∀ c left right, P left → P right → P (.compare c left right)
  and : ∀ left right, P left → P right → P (.and left right)
  call : ∀ function distinct arguments, (∀ e ∈ arguments, P e) →
    P (.call function distinct arguments)
  cast : ∀ operand kind, P operand → P (.cast operand kind)
  nonempty : ∀ query, Q query → P (.nonempty query)
  scalar : ∀ query, Q query → P (.scalar query)
  among : ∀ negated operand values, P operand → (∀ e ∈ values, P e) →
    P (.among negated operand values)
  between : ∀ negated operand low high, P operand → P low → P high →
    P (.between negated operand low high)
  isNull : ∀ negated operand, P operand → P (.isNull negated operand)
  like : ∀ negated operand pattern escape, P operand → P pattern →
    P (.like negated operand pattern escape)
  star : ∀ table, P (.star table)
  paren : ∀ inner, P inner → P (.paren inner)
  query : ∀ items source joins conditions groups orders limit,
    (∀ item ∈ items, P item.expr) →
    (∀ join ∈ joins, (∀ query name, join.source = .lateral query name → Q query) ∧
      ∀ e ∈ join.conditions, P e) →
    (∀ e ∈ conditions, P e) → (∀ e ∈ groups, P e) → (∀ order ∈ orders, P order.expr) →
    Q ⟨items, source, joins, conditions, groups, orders, limit⟩

namespace SyntaxCases

variable {P : Expr → Prop} {Q : Query → Prop}

mutual

/-- What is shown form by form holds of every expression. -/
theorem ofExpr (h : SyntaxCases P Q) : ∀ e, P e
  | .column table name => h.column table name
  | .int n => h.int n
  | .text s => h.text s
  | .param n => h.param n
  | .compare c left right => h.compare c left right (h.ofExpr left) (h.ofExpr right)
  | .and left right => h.and left right (h.ofExpr left) (h.ofExpr right)
  | .call function distinct arguments => h.call function distinct arguments (h.ofExprs arguments)
  | .cast operand kind => h.cast operand kind (h.ofExpr operand)
  | .nonempty query => h.nonempty query (h.ofQuery query)
  | .scalar query => h.scalar query (h.ofQuery query)
  | .among negated operand values =>
    h.among negated operand values (h.ofExpr operand) (h.ofExprs values)
  | .between negated operand low high =>
    h.between negated operand low high (h.ofExpr operand) (h.ofExpr low) (h.ofExpr high)
  | .isNull negated operand => h.isNull negated operand (h.ofExpr operand)
  | .like negated operand pattern escape =>
    h.like negated operand pattern escape (h.ofExpr operand) (h.ofExpr pattern)
  | .star table => h.star table
  | .paren inner => h.paren inner (h.ofExpr inner)

theorem ofExprs (h : SyntaxCases P Q) : ∀ es : List Expr, ∀ e ∈ es, P e
  | [], _, hMem => by simp at hMem
  | first :: rest, e, hMem => by
      rcases List.mem_cons.mp hMem with hFirst | hRest
      · exact hFirst ▸ h.ofExpr first
      · exact h.ofExprs rest e hRest

theorem ofItem (h : SyntaxCases P Q) : ∀ item : Item, P item.expr
  | ⟨expr, _⟩ => h.ofExpr expr

theorem ofItems (h : SyntaxCases P Q) : ∀ items : List Item, ∀ item ∈ items, P item.expr
  | [], _, hMem => by simp at hMem
  | first :: rest, item, hMem => by
      rcases List.mem_cons.mp hMem with hFirst | hRest
      · exact hFirst ▸ h.ofItem first
      · exact h.ofItems rest item hRest

theorem ofSource (h : SyntaxCases P Q) :
    ∀ source : JoinSource, ∀ query name, source = .lateral query name → Q query
  | .table _, _, _, hEq => nomatch hEq
  | .lateral query _, _, _, hEq => by
      cases hEq
      exact h.ofQuery query

theorem ofJoin (h : SyntaxCases P Q) : ∀ join : JoinItem,
    (∀ query name, join.source = .lateral query name → Q query) ∧ ∀ e ∈ join.conditions, P e
  | ⟨_, source, conditions⟩ => ⟨h.ofSource source, h.ofExprs conditions⟩

theorem ofJoins (h : SyntaxCases P Q) : ∀ joins : List JoinItem, ∀ join ∈ joins,
    (∀ query name, join.source = .lateral query name → Q query) ∧ ∀ e ∈ join.conditions, P e
  | [], _, hMem => by simp at hMem
  | first :: rest, join, hMem => by
      rcases List.mem_cons.mp hMem with hFirst | hRest
      · exact hFirst ▸ h.ofJoin first
      · exact h.ofJoins rest join hRest

theorem ofOrder (h : SyntaxCases P Q) : ∀ order : OrderItem, P order.expr
  | ⟨expr, _⟩ => h.ofExpr expr

theorem ofOrders (h : SyntaxCases P Q) : ∀ orders : List OrderItem, ∀ order ∈ orders, P order.expr
  | [], _, hMem => by simp at hMem
  | first :: rest, order, hMem => by
      rcases List.mem_cons.mp hMem with hFirst | hRest
      · exact hFirst ▸ h.ofOrder first
      · exact h.ofOrders rest order hRest

/-- What is shown of queries from their parts holds of every query. -/
theorem ofQuery (h : SyntaxCases P Q) : ∀ query, Q query
  | ⟨items, source, joins, conditions, groups, orders, limit⟩ =>
    h.query items source joins conditions groups orders limit (h.ofItems items) (h.ofJoins joins)
      (h.ofExprs conditions) (h.ofExprs groups) (h.ofOrders orders)

end

end SyntaxCases

/-! The tokens of lists, without the recursion that goes through them. -/

theorem exprTokens_eq_map (d : Dialect) (es : List Expr) :
    exprTokens d es = es.map (Expr.tokens d) := by
  induction es with
  | nil => rfl
  | cons e rest ih => rw [exprTokens, ih, List.map_cons]

theorem itemTokens_eq_map (d : Dialect) (items : List Item) :
    itemTokens d items = items.map fun item => .newline :: .indent 1 :: item.tokens d := by
  induction items with
  | nil => rfl
  | cons item rest ih => rw [itemTokens, ih, List.map_cons]

theorem joinTokens_eq_flatMap (d : Dialect) (joins : List JoinItem) :
    joinTokens d joins = joins.flatMap fun join => .newline :: join.tokens d := by
  induction joins with
  | nil => rfl
  | cons join rest ih => rw [joinTokens, ih, List.flatMap_cons]

theorem orderTokens_eq_map (d : Dialect) (orders : List OrderItem) :
    orderTokens d orders = orders.map (OrderItem.tokens d) := by
  induction orders with
  | nil => rfl
  | cons order rest ih => rw [orderTokens, ih, List.map_cons]

def clauseOver (word : Keyword) (join : List (List Token) → List Token)
    (parts : List (List Token)) : List Token :=
  if parts.isEmpty then [] else clause word (join parts)

/-- A join is written as its source and the conditions behind `ON`. -/
theorem JoinItem.tokens_eq (d : Dialect) (join : JoinItem) :
    join.tokens d = .keyword join.type.keyword :: .space :: .keyword .join :: .space ::
      (join.source.tokens d ++ .space :: .keyword .onKeyword :: .space ::
        if join.conditions.isEmpty then [.keyword .true]
        else conjoined (join.conditions.map (Expr.tokens d))) := by
  obtain ⟨type, source, conditions⟩ := join
  simp [JoinItem.tokens, exprTokens_eq_map]

/-- The clauses of a query, one after the other. -/
theorem Query.tokens_eq (d : Dialect) (query : Query) :
    query.tokens d = .keyword .select ::
      ([Token.comma].intercalate (query.items.map fun item =>
          .newline :: .indent 1 :: (item.expr.tokens d ++ naming item.name)) ++
        (query.source.elim [] fun t => clause .fromKeyword t.tokens) ++
        (query.joins.flatMap fun join => .newline :: join.tokens d) ++
        clauseOver .whereKeyword conjoined (query.conditions.map (Expr.tokens d)) ++
        clauseOver .groupBy listed (query.groups.map (Expr.tokens d)) ++
        clauseOver .orderBy listed (query.orders.map fun order =>
          order.expr.tokens d ++ directionTokens order.direction) ++
        query.limit.elim [] fun n => .newline :: limitTokens n) := by
  obtain ⟨items, source, joins, conditions, groups, orders, limit⟩ := query
  have hItem : Item.tokens d = fun item => item.expr.tokens d ++ naming item.name := by
    funext ⟨expr, name⟩
    rw [Item.tokens]
  have hOrder : OrderItem.tokens d = fun order =>
      order.expr.tokens d ++ directionTokens order.direction := by
    funext ⟨expr, direction⟩
    rw [OrderItem.tokens]
  cases source <;> cases limit <;>
    simp [Query.tokens, clauseOver, exprTokens_eq_map, itemTokens_eq_map, joinTokens_eq_flatMap,
      orderTokens_eq_map, hItem, hOrder]

/-- Conditions as they are when each is joined to those before it, which leaves at most one. -/
def chained : List Expr → List Expr
  | [] => []
  | first :: rest => [rest.foldl .and first]

/-- A chain of conditions is written like the conditions side by side. -/
theorem tokens_foldl_and (d : Dialect) (first : Expr) (rest : List Expr) :
    (rest.foldl .and first).tokens d = conjoined ((first :: rest).map (Expr.tokens d)) := by
  induction rest generalizing first with
  | nil => simp [conjoined, List.intercalate]
  | cons next rest ih =>
      rw [List.foldl_cons, ih]
      -- Only what stands first differs, and there the chain writes the same `AND`.
      cases rest <;> simp [conjoined, Expr.tokens, List.intercalate]

/-- Joined with nothing or with each other, conditions are written alike. -/
theorem conjoined_chained (d : Dialect) (conditions : List Expr) :
    conjoined ((chained conditions).map (Expr.tokens d)) =
      conjoined (conditions.map (Expr.tokens d)) := by
  cases conditions with
  | nil => rfl
  | cons first rest =>
      rw [chained, List.map_singleton, tokens_foldl_and]
      exact List.intercalate_singleton

theorem isEmpty_chained (conditions : List Expr) :
    (chained conditions).isEmpty = conditions.isEmpty := by
  cases conditions <;> rfl

/-- Whether a join holds its conditions side by side or as one chain is not to be seen. -/
theorem JoinItem.tokens_chained (d : Dialect) (join : JoinItem) :
    { join with conditions := chained join.conditions }.tokens d = join.tokens d := by
  rw [JoinItem.tokens_eq, JoinItem.tokens_eq, conjoined_chained, isEmpty_chained]

/-- Whether a query holds its conditions side by side or as one chain is not to be seen. -/
theorem Query.tokens_chained (d : Dialect) (query : Query) :
    { query with conditions := chained query.conditions }.tokens d = query.tokens d := by
  have hWhere :
      clauseOver .whereKeyword conjoined ((chained query.conditions).map (Expr.tokens d)) =
      clauseOver .whereKeyword conjoined (query.conditions.map (Expr.tokens d)) := by
    rw [clauseOver, clauseOver, conjoined_chained, List.isEmpty_map, List.isEmpty_map,
      isEmpty_chained]
  rw [Query.tokens_eq, Query.tokens_eq, hWhere]

mutual

/-- The expressions that an expression is written with, in the order in which they begin. What is
tested against an empty list is not written. -/
def Expr.nodes : Expr → List Expr
  | .column table name => [.column table name]
  | .int n => [.int n]
  | .text s => [.text s]
  | .param n => [.param n]
  | .compare c left right => .compare c left right :: (left.nodes ++ right.nodes)
  | .and left right => .and left right :: (left.nodes ++ right.nodes)
  | .call function distinct arguments => .call function distinct arguments :: exprNodes arguments
  | .cast operand kind => .cast operand kind :: operand.nodes
  | .nonempty query => .nonempty query :: query.nodes
  | .scalar query => .scalar query :: query.nodes
  | .among negated operand [] => [.among negated operand []]
  | .among negated operand (value :: values) =>
    .among negated operand (value :: values) ::
      (operand.nodes ++ (value.nodes ++ exprNodes values))
  | .between negated operand low high =>
    .between negated operand low high :: (operand.nodes ++ low.nodes ++ high.nodes)
  | .isNull negated operand => .isNull negated operand :: operand.nodes
  | .like negated operand pattern escape =>
    .like negated operand pattern escape :: (operand.nodes ++ pattern.nodes)
  | .star table => [.star table]
  | .paren inner => .paren inner :: inner.nodes

def exprNodes : List Expr → List Expr
  | [] => []
  | e :: rest => e.nodes ++ exprNodes rest

def itemNodes : List Item → List Expr
  | [] => []
  | ⟨expr, _⟩ :: rest => expr.nodes ++ itemNodes rest

def JoinSource.nodes : JoinSource → List Expr
  | .table _ => []
  | .lateral query _ => query.nodes

def JoinItem.nodes : JoinItem → List Expr
  | ⟨_, source, conditions⟩ => source.nodes ++ exprNodes conditions

def joinNodes : List JoinItem → List Expr
  | [] => []
  | join :: rest => join.nodes ++ joinNodes rest

def orderNodes : List OrderItem → List Expr
  | [] => []
  | ⟨expr, _⟩ :: rest => expr.nodes ++ orderNodes rest

/-- The expressions that a query is written with, clause by clause. -/
def Query.nodes : Query → List Expr
  | ⟨items, _, joins, conditions, groups, orders, _⟩ =>
    itemNodes items ++ joinNodes joins ++ exprNodes conditions ++ exprNodes groups ++
      orderNodes orders

end

theorem exprNodes_eq_flatMap (es : List Expr) : exprNodes es = es.flatMap Expr.nodes := by
  induction es with
  | nil => rfl
  | cons e rest ih => rw [exprNodes, ih, List.flatMap_cons]

theorem exprNodes_append (xs ys : List Expr) :
    exprNodes (xs ++ ys) = exprNodes xs ++ exprNodes ys := by
  simp [exprNodes_eq_flatMap]

theorem itemNodes_eq_flatMap (items : List Item) :
    itemNodes items = items.flatMap fun item => item.expr.nodes := by
  induction items with
  | nil => rfl
  | cons item rest ih =>
      obtain ⟨expr, name⟩ := item
      rw [itemNodes, ih, List.flatMap_cons]

theorem joinNodes_eq_flatMap (joins : List JoinItem) :
    joinNodes joins = joins.flatMap JoinItem.nodes := by
  induction joins with
  | nil => rfl
  | cons join rest ih => rw [joinNodes, ih, List.flatMap_cons]

theorem orderNodes_eq_flatMap (orders : List OrderItem) :
    orderNodes orders = orders.flatMap fun order => order.expr.nodes := by
  induction orders with
  | nil => rfl
  | cons order rest ih =>
      obtain ⟨expr, direction⟩ := order
      rw [orderNodes, ih, List.flatMap_cons]

end Crosstab.Sql
