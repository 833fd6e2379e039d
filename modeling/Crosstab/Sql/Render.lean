import Crosstab.Sql.Expr

/-!
The tokens of expressions and queries. Each clause of a query starts a line of its own, and so does
each projected expression; conditions stand side by side, joined by `AND`.
-/

namespace Crosstab.Sql

/-- Lists of tokens with a comma and a space between each two. -/
def listed (parts : List (List Token)) : List Token := [Token.comma, .space].intercalate parts

/-- Conditions that all have to hold. -/
def conjoined (parts : List (List Token)) : List Token :=
  [Token.space, .keyword .and, .space].intercalate parts

def parenthesized (tokens : List Token) : List Token := .leftParen :: tokens ++ [.rightParen]

def negation (negated : Bool) : List Token :=
  if negated then [.space, .keyword .not] else []

def naming : Option String → List Token
  | some name => [.space, .keyword .asKeyword, .space, .name name]
  | none => []

def TableRef.tokens (t : TableRef) : List Token :=
  .qualifiedName t.schema t.table :: naming t.name

def qualifier : Option String → List Token
  | some table => [.name table, .dot]
  | none => []

/-- A cast. Behind its operand it needs parentheses unless the operand is atomic; otherwise it is
written around it, and for dates it is the function that normalizes them. -/
def castTokens (d : Dialect) (atomic : Bool) (operand : List Token) (kind : ValueKind) :
    List Token :=
  if d.hasPostfixCast then
    (if atomic then operand else parenthesized operand) ++ [.doubleColon, .type (d.typeName kind)]
  else if kind = .date then .function "DATE" :: parenthesized operand
  else
    .keyword .cast ::
      parenthesized (operand ++ [.space, .keyword .asKeyword, .space, .type (d.typeName kind)])

/-- The clause that bounds the number of rows. The store counts with sign, so a larger number means
its largest one. -/
def limitTokens (limit : UInt64) : List Token :=
  [.keyword .limit, .space, .int (min limit.toNat (Nat.pow 2 63 - 1) : Nat)]

def JoinType.keyword : JoinType → Keyword
  | .inner => .inner
  | .left => .left
  | .right => .right

def directionTokens : Option SortDirection → List Token
  | some .asc => [.space, .keyword .asc]
  | some .desc => [.space, .keyword .desc]
  | none => []

/-- A clause on a line of its own. -/
def clause (word : Keyword) (body : List Token) : List Token :=
  .newline :: .keyword word :: .space :: body

mutual

/-- The tokens of an expression. A list without members has none to compare with, so that nothing is
in it. -/
def Expr.tokens (d : Dialect) : Expr → List Token
  | .column table name => qualifier table ++ [.name name]
  | .int n => [.int n]
  | .text s => [.text s]
  | .param n => [.placeholder n]
  | .compare c left right => left.tokens d ++ [.space, .comparator c, .space] ++ right.tokens d
  | .and left right => left.tokens d ++ [.space, .keyword .and, .space] ++ right.tokens d
  | .call function distinct arguments =>
    .function function ::
      parenthesized
        ((if distinct then [.keyword .distinct, .space] else []) ++ listed (exprTokens d arguments))
  | .cast operand kind => castTokens d operand.isAtomic (operand.tokens d) kind
  | .nonempty query => .keyword .existsKeyword :: .space :: parenthesized (query.tokens d)
  | .scalar query => parenthesized (query.tokens d)
  | .among negated _ [] => [.keyword (if negated then .true else .false)]
  | .among negated operand (value :: values) =>
    operand.tokens d ++ negation negated ++ [.space, .keyword .inKeyword, .space] ++
      parenthesized (listed (value.tokens d :: exprTokens d values))
  | .between negated operand low high =>
    operand.tokens d ++ negation negated ++ [.space, .keyword .between, .space] ++ low.tokens d ++
      [.space, .keyword .and, .space] ++ high.tokens d
  | .isNull negated operand =>
    operand.tokens d ++ [.space, .keyword (if negated then .isNotNull else .isNull)]
  | .like negated operand pattern escape =>
    operand.tokens d ++ negation negated ++ [.space, .keyword .like, .space] ++ pattern.tokens d ++
      [.space, .keyword .escape, .space, .text (String.singleton escape)]
  | .star table => qualifier table ++ [.star]
  | .paren inner => parenthesized (inner.tokens d)

def exprTokens (d : Dialect) : List Expr → List (List Token)
  | [] => []
  | e :: rest => e.tokens d :: exprTokens d rest

def Item.tokens (d : Dialect) : Item → List Token
  | ⟨expr, name⟩ => expr.tokens d ++ naming name

def itemTokens (d : Dialect) : List Item → List (List Token)
  | [] => []
  | item :: rest => (.newline :: .indent 1 :: item.tokens d) :: itemTokens d rest

def JoinSource.tokens (d : Dialect) : JoinSource → List Token
  | .table t => t.tokens
  | .lateral query name =>
    .keyword .lateral :: .space :: parenthesized (query.tokens d) ++ naming (some name)

def JoinItem.tokens (d : Dialect) : JoinItem → List Token
  | ⟨type, source, conditions⟩ =>
    [.keyword type.keyword, .space, .keyword .join, .space] ++ source.tokens d ++
      [.space, .keyword .onKeyword, .space] ++
      (if conditions.isEmpty then [.keyword .true] else conjoined (exprTokens d conditions))

def joinTokens (d : Dialect) : List JoinItem → List Token
  | [] => []
  | item :: rest => .newline :: item.tokens d ++ joinTokens d rest

def OrderItem.tokens (d : Dialect) : OrderItem → List Token
  | ⟨expr, direction⟩ => expr.tokens d ++ directionTokens direction

def orderTokens (d : Dialect) : List OrderItem → List (List Token)
  | [] => []
  | item :: rest => item.tokens d :: orderTokens d rest

/-- The tokens of a query. Clauses that say nothing are left out. -/
def Query.tokens (d : Dialect) : Query → List Token
  | ⟨items, source, joins, conditions, groups, orders, limit⟩ =>
    .keyword .select :: [Token.comma].intercalate (itemTokens d items) ++
      (match source with
        | some t => clause .fromKeyword t.tokens
        | none => []) ++
      joinTokens d joins ++
      (if conditions.isEmpty then []
        else clause .whereKeyword (conjoined (exprTokens d conditions))) ++
      (if groups.isEmpty then [] else clause .groupBy (listed (exprTokens d groups))) ++
      (if orders.isEmpty then [] else clause .orderBy (listed (orderTokens d orders))) ++
      (match limit with
        | some n => .newline :: limitTokens n
        | none => [])

end

def Expr.sql (d : Dialect) (e : Expr) : String := written d (e.tokens d)

def Query.sql (d : Dialect) (query : Query) : String := written d (query.tokens d)

end Crosstab.Sql
