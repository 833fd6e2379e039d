import Crosstab.Sql.Expr
import Mathlib.Data.List.Basic

/-!
Scopes. A query binds a name for its own table and one for each joined source; a condition sees the
sources joined so far, and a sub-select sees its own table and all that is in scope around it. The
mentions of a query are the places where it binds such a name or uses one.
-/

namespace Crosstab.Sql

def JoinSource.binder : JoinSource → String
  | .table t => t.name.getD t.table
  | .lateral _ name => name

/-- The sources in scope, the innermost first. -/
abbrev Scope := List JoinSource

/-- What a name stands for: the innermost source that is bound under it. -/
def Scope.find? (scope : Scope) (name : String) : Option JoinSource :=
  List.find? (fun source => source.binder = name) scope

/-- A place where a query speaks of tables. -/
inductive Mention where
  | bound (source : JoinSource)
  /-- A name in front of a column, or of all columns, and what is in scope there. -/
  | used (scope : Scope) (table : String) (column : Option String)

/-- The scope behind `FROM`. -/
def fromScope (source : Option TableRef) (outer : Scope) : Scope :=
  (source.map JoinSource.table).toList ++ outer

def joinScope (joins : List JoinItem) (outer : Scope) : Scope :=
  joins.foldl (fun scope join => join.source :: scope) outer

mutual

/-- The mentions in an expression. -/
def Expr.mentions (scope : Scope) : Expr → List Mention
  | .column (some table) name => [.used scope table (some name)]
  | .column none _ => []
  | .int _ => []
  | .text _ => []
  | .param _ => []
  | .compare _ left right => left.mentions scope ++ right.mentions scope
  | .and left right => left.mentions scope ++ right.mentions scope
  | .call _ _ arguments => exprMentions scope arguments
  | .cast operand _ => operand.mentions scope
  | .nonempty query => query.mentions scope
  | .scalar query => query.mentions scope
  | .among _ operand values => operand.mentions scope ++ exprMentions scope values
  | .between _ operand low high =>
    operand.mentions scope ++ low.mentions scope ++ high.mentions scope
  | .isNull _ operand => operand.mentions scope
  | .like _ operand pattern _ => operand.mentions scope ++ pattern.mentions scope
  | .star (some table) => [.used scope table none]
  | .star none => []
  | .paren inner => inner.mentions scope

def exprMentions (scope : Scope) : List Expr → List Mention
  | [] => []
  | e :: rest => e.mentions scope ++ exprMentions scope rest

def itemMentions (scope : Scope) : List Item → List Mention
  | [] => []
  | ⟨expr, _⟩ :: rest => expr.mentions scope ++ itemMentions scope rest

def JoinSource.mentions (scope : Scope) : JoinSource → List Mention
  | .table t => [.bound (.table t)]
  | .lateral query name => .bound (.lateral query name) :: query.mentions scope

def joinMentions (scope : Scope) : List JoinItem → List Mention
  | [] => []
  | ⟨_, source, conditions⟩ :: rest =>
    source.mentions scope ++ exprMentions (source :: scope) conditions ++
      joinMentions (source :: scope) rest

def orderMentions (scope : Scope) : List OrderItem → List Mention
  | [] => []
  | ⟨expr, _⟩ :: rest => expr.mentions scope ++ orderMentions scope rest

/-- The mentions in a query, clause by clause. What is projected, tested, grouped or ordered by sees
all joined sources. -/
def Query.mentions (outer : Scope) : Query → List Mention
  | ⟨items, source, joins, conditions, groups, orders, _⟩ =>
    (source.map fun t => .bound (.table t)).toList ++ joinMentions (fromScope source outer) joins ++
      itemMentions (joinScope joins (fromScope source outer)) items ++
      exprMentions (joinScope joins (fromScope source outer)) conditions ++
      exprMentions (joinScope joins (fromScope source outer)) groups ++
      orderMentions (joinScope joins (fromScope source outer)) orders

end

/-- What is in scope in the clauses of a query. -/
def Query.scope (query : Query) (outer : Scope) : Scope :=
  joinScope query.joins (fromScope query.source outer)

/-- The name that a mention binds. -/
@[simp] def Mention.binder? : Mention → Option String
  | .bound source => some source.binder
  | .used _ _ _ => none

def boundNames (mentions : List Mention) : List String := mentions.filterMap Mention.binder?

theorem boundNames_cons_bound (source : JoinSource) (mentions : List Mention) :
    boundNames (.bound source :: mentions) = source.binder :: boundNames mentions := rfl

theorem boundNames_cons_used (scope : Scope) (table : String) (column : Option String)
    (mentions : List Mention) :
    boundNames (.used scope table column :: mentions) = boundNames mentions := rfl

theorem boundNames_append (xs ys : List Mention) :
    boundNames (xs ++ ys) = boundNames xs ++ boundNames ys :=
  List.filterMap_append

theorem exprMentions_eq_flatMap (scope : Scope) (es : List Expr) :
    exprMentions scope es = es.flatMap (Expr.mentions scope) := by
  induction es with
  | nil => rfl
  | cons e rest ih => rw [exprMentions, ih, List.flatMap_cons]

/-- Projected expressions mention what expressions mention. -/
theorem itemMentions_eq (scope : Scope) (items : List Item) :
    itemMentions scope items = exprMentions scope (items.map Item.expr) := by
  induction items with
  | nil => rfl
  | cons item rest ih =>
      obtain ⟨expr, name⟩ := item
      rw [itemMentions, ih, List.map_cons, exprMentions]

theorem orderMentions_eq_flatMap (scope : Scope) (orders : List OrderItem) :
    orderMentions scope orders = orders.flatMap fun order => order.expr.mentions scope := by
  induction orders with
  | nil => rfl
  | cons order rest ih =>
      obtain ⟨expr, direction⟩ := order
      rw [orderMentions, ih, List.flatMap_cons]

/-- The innermost source is found under its name. -/
theorem Scope.find?_cons_self (source : JoinSource) (scope : Scope) :
    Scope.find? (source :: scope) source.binder = some source := by
  simp [Scope.find?]

/-- A name is looked for further out if the innermost source has another one. -/
theorem Scope.find?_cons_of_ne {source : JoinSource} {name : String} (h : source.binder ≠ name)
    (scope : Scope) : Scope.find? (source :: scope) name = scope.find? name := by
  simp [Scope.find?, h]

end Crosstab.Sql
