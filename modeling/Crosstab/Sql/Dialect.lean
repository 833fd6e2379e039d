import Crosstab.Column
import Crosstab.Text.Case

/-!
The three dialects of SQL that statements are written in, and everything in which they differ: the
names of types, the form of placeholders and casts, and how one matching row is picked.
-/

namespace Crosstab.Sql

open Crosstab.Text

inductive Dialect where
  | postgres
  | duckdb
  | sqlite
deriving DecidableEq

namespace Dialect

def all : List Dialect := [.postgres, .duckdb, .sqlite]

def name : Dialect → String
  | .postgres => "postgres"
  | .duckdb => "duckdb"
  | .sqlite => "sqlite"

/-- The dialect of a name or a usual short form of it, in any mixture of cases. -/
def ofName? (name : String) : Option Dialect :=
  match fold name with
  | "postgres" | "postgresql" | "pg" => some .postgres
  | "duckdb" | "duck" => some .duckdb
  | "sqlite" | "sqlite3" => some .sqlite
  | _ => none

def typeName : Dialect → ValueKind → String
  | .postgres, .text => "text"
  | .postgres, .numeric => "numeric"
  | .postgres, .date => "date"
  | .duckdb, .text => "VARCHAR"
  | .duckdb, .numeric => "DOUBLE"
  | .duckdb, .date => "DATE"
  | .sqlite, .text => "TEXT"
  | .sqlite, .numeric => "REAL"
  | .sqlite, .date => "DATE"

/-- Whether a cast is written behind its operand. -/
def hasPostfixCast : Dialect → Bool
  | .postgres | .duckdb => true
  | .sqlite => false

/-- Whether a sub-select in a join may refer to the tables before it. -/
def hasLateral : Dialect → Bool
  | .postgres | .duckdb => true
  | .sqlite => false

/-- The column that every table has and that tells its rows apart. -/
def rowIdentity? : Dialect → Option String
  | .postgres | .duckdb => none
  | .sqlite => some "rowid"

/-- The placeholder for a bound value; the first one has number one. -/
def placeholder : Dialect → Nat → String
  | .postgres, n | .duckdb, n => "$" ++ toString n
  | .sqlite, n => "?" ++ toString n

end Dialect

/-- Characters between quotes, where the quote itself is written twice. -/
def quotedChars (quote : Char) (cs : List Char) : List Char :=
  quote :: cs.flatMap (fun c => if c = quote then [quote, quote] else [c]) ++ [quote]

/-- A name in double quotes. All dialects quote alike. -/
def quotedName (name : String) : String := String.ofList (quotedChars '"' name.toList)

def quotedText (s : String) : String := String.ofList (quotedChars '\x27' s.toList)

end Crosstab.Sql
