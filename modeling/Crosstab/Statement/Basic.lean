import Crosstab.Sql.Bindings
import Crosstab.Sql.Render

/-!
Statements: a query in a dialect, the values bound to its placeholders, and what its columns mean.
-/

namespace Crosstab

open Crosstab.Sql

inductive OutputKind where
  | dimension
  | measure
deriving DecidableEq

def OutputKind.name : OutputKind → String
  | .dimension => "dimension"
  | .measure => "measure"

structure OutputColumn where
  key : String
  label : String
  kind : OutputKind
deriving DecidableEq

structure Statement where
  dialect : Dialect
  query : Query
  /-- The bound values, in the order of their placeholders. -/
  values : List Value
  columns : List OutputColumn
  /-- The largest number of rows it yields. -/
  limit : UInt64

namespace Statement

def tokens (s : Statement) : List Token := s.query.tokens s.dialect

def sql (s : Statement) : String := s.query.sql s.dialect

def measureKeys (s : Statement) : List String :=
  (s.columns.filter fun column => column.kind = .measure).map OutputColumn.key

end Statement

def OutputColumn.toJson (column : OutputColumn) : Json :=
  .object [
    ("key", .text column.key), ("label", .text column.label), ("kind", .text column.kind.name)]

def Statement.toJson (s : Statement) : Json :=
  .object [
    ("sql", .text s.sql),
    ("params", .list (s.values.map Value.toJson)),
    ("display", .texts (s.values.map Value.display)),
    ("columns", .list (s.columns.map OutputColumn.toJson)),
    ("measureKeys", .texts s.measureKeys),
    ("placeholders", .int (placeholderCount s.tokens)),
    ("limit", .int s.limit.toNat)]

end Crosstab
