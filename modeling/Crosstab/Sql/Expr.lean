import Crosstab.Column
import Crosstab.Sql.Token

/-!
Expressions and queries. There is no expression that holds text of a statement: whatever does not
come from this library enters a statement as a parameter.
-/

namespace Crosstab.Sql

inductive JoinType where
  | inner
  | left
  | right
deriving DecidableEq

/-- A table, and the name it goes by in the query. -/
structure TableRef where
  schema : Option String := none
  table : String
  name : Option String := none
deriving DecidableEq

mutual

inductive Expr where
  /-- A column, of a named table or of whichever has it. -/
  | column (table : Option String) (name : String)
  | int (n : Int)
  | text (s : String)
  /-- A bound value; the first one has number one. -/
  | param (n : Nat)
  | compare (c : Comparator) (left right : Expr)
  | and (left right : Expr)
  | call (function : String) (distinct : Bool) (arguments : List Expr)
  | cast (operand : Expr) (kind : ValueKind)
  /-- Whether a query has rows. -/
  | nonempty (query : Query)
  /-- The value of a query with one row and one column. -/
  | scalar (query : Query)
  | among (negated : Bool) (operand : Expr) (values : List Expr)
  | between (negated : Bool) (operand low high : Expr)
  | isNull (negated : Bool) (operand : Expr)
  | like (negated : Bool) (operand pattern : Expr) (escape : Char)
  /-- All columns, of a named table or of every table. -/
  | star (table : Option String)
  | paren (inner : Expr)

/-- A projected expression, and the name it is projected under. -/
structure Item where
  expr : Expr
  name : Option String

/-- A joined table, with the conditions that rows have to meet; without any, all do. -/
structure JoinItem where
  type : JoinType
  source : JoinSource
  conditions : List Expr

/-- What a join reads: a table, or a sub-select that may refer to the tables before it. -/
inductive JoinSource where
  | table (table : TableRef)
  | lateral (query : Query) (name : String)

structure OrderItem where
  expr : Expr
  direction : Option SortDirection

/-- A query. Rows have to meet all conditions. -/
structure Query where
  items : List Item
  source : Option TableRef
  joins : List JoinItem
  conditions : List Expr
  groups : List Expr
  orders : List OrderItem
  limit : Option UInt64

end

def Query.empty : Query := ⟨[], none, [], [], [], [], none⟩

namespace Expr

def ofTable (table name : String) : Expr := .column (some table) name

def ofName (name : String) : Expr := .column none name

def upper (e : Expr) : Expr := .call "UPPER" false [e]

def coalesce (es : List Expr) : Expr := .call "COALESCE" false es

def sum (e : Expr) : Expr := .call "SUM" false [e]

def avg (e : Expr) : Expr := .call "AVG" false [e]

def min (e : Expr) : Expr := .call "MIN" false [e]

def max (e : Expr) : Expr := .call "MAX" false [e]

def count (e : Expr) : Expr := .call "COUNT" false [e]

def countDistinct (e : Expr) : Expr := .call "COUNT" true [e]

def countRows : Expr := .call "COUNT" false [.star none]

/-- Whether an operator may follow the expression without parentheses around it. -/
def isAtomic : Expr → Bool
  | .column _ _ | .int _ | .text _ | .param _ | .call _ _ _ | .cast _ _ | .scalar _ | .star _
  | .paren _ => true
  | _ => false

end Expr

end Crosstab.Sql
