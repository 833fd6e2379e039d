import Crosstab.Join.Basic
import Crosstab.Sql.Dialect

/-!
Tokens: what statements consist of. A statement is the concatenation of the texts of its tokens,
white space included.
-/

namespace Crosstab.Sql

open Crosstab.Text

inductive Keyword where
  | select
  | fromKeyword
  | whereKeyword
  | and
  | not
  | asKeyword
  | onKeyword
  | join
  | inner
  | left
  | right
  | lateral
  | groupBy
  | orderBy
  | asc
  | desc
  | limit
  | inKeyword
  | between
  | like
  | escape
  | existsKeyword
  | isNull
  | isNotNull
  | distinct
  | cast
  | true
  | false
deriving DecidableEq

def Keyword.text : Keyword → String
  | .select => "SELECT"
  | .fromKeyword => "FROM"
  | .whereKeyword => "WHERE"
  | .and => "AND"
  | .not => "NOT"
  | .asKeyword => "AS"
  | .onKeyword => "ON"
  | .join => "JOIN"
  | .inner => "INNER"
  | .left => "LEFT"
  | .right => "RIGHT"
  | .lateral => "LATERAL"
  | .groupBy => "GROUP BY"
  | .orderBy => "ORDER BY"
  | .asc => "ASC"
  | .desc => "DESC"
  | .limit => "LIMIT"
  | .inKeyword => "IN"
  | .between => "BETWEEN"
  | .like => "LIKE"
  | .escape => "ESCAPE"
  | .existsKeyword => "EXISTS"
  | .isNull => "IS NULL"
  | .isNotNull => "IS NOT NULL"
  | .distinct => "DISTINCT"
  | .cast => "CAST"
  | .true => "TRUE"
  | .false => "FALSE"

inductive Token where
  | keyword (word : Keyword)
  | comma
  | dot
  | star
  | leftParen
  | rightParen
  | doubleColon
  | comparator (c : Comparator)
  | space
  | newline
  | indent (depth : Nat)
  /-- A name of a table, a column or an alias. -/
  | name (s : String)
  /-- A name of a table with or without its schema. -/
  | qualifiedName (schema : Option String) (s : String)
  | int (n : Int)
  | text (s : String)
  | placeholder (n : Nat)
  /-- A function, written in capitals. -/
  | function (s : String)
  /-- A type, written as it is. -/
  | type (s : String)
deriving DecidableEq

namespace Token

def isPlaceholder : Token → Bool
  | .placeholder _ => Bool.true
  | _ => Bool.false

def written (d : Dialect) : Token → String
  | .keyword word => word.text
  | .comma => ","
  | .dot => "."
  | .star => "*"
  | .leftParen => "("
  | .rightParen => ")"
  | .doubleColon => "::"
  | .comparator c => c.symbol
  | .space => " "
  | .newline => "\n"
  | .indent depth => String.ofList (List.replicate (2 * depth) ' ')
  | .name s => quotedName s
  | .qualifiedName none s => quotedName s
  | .qualifiedName (some schema) s => quotedName schema ++ "." ++ quotedName s
  | .int n => toString n
  | .text s => quotedText s
  | .placeholder n => d.placeholder n
  | .function s => upper s
  | .type s => s

end Token

def written (d : Dialect) (tokens : List Token) : String :=
  String.join (tokens.map (Token.written d))

def placeholderCount (tokens : List Token) : Nat := tokens.countP Token.isPlaceholder

end Crosstab.Sql
