import Crosstab.Proofs.Sql.Pattern
import Crosstab.Sql.Bindings

/-!
What conditions on texts say of a row. Truth has three values: whatever is compared with null is
null, and a value is among others if it equals one of them, is not if it differs from all of them,
and is perhaps if all that can be said is that some of them are null.
-/

namespace Crosstab.Sql

/-- A value in the store. Of a value that is neither a text nor a truth value no more is known than
the text that it is cast to. -/
inductive Datum where
  | null
  | truth (b : Bool)
  | text (s : String)
  | other (shown : String)
deriving DecidableEq

namespace Datum

/-- The text that a value is cast to. Null has none. -/
def text? : Datum → Option String
  | .null => none
  | .truth b => some (if b then "true" else "false")
  | .text s | .other s => some s

/-- A text that may be missing. -/
def ofText? : Option String → Datum
  | none => .null
  | some s => .text s

/-- A text in capitals. Other values have none. -/
def capitals? (upper : String → String) : Datum → Option Datum
  | .null => some .null
  | .text s => some (.text (upper s))
  | .truth _ | .other _ => none

def coalesce (xs : List Datum) : Datum := (xs.find? fun x => x ≠ .null).getD .null

def equals? : Datum → Datum → Option Datum
  | .text s, .text t => some (.truth (s = t))
  | .null, .null | .null, .text _ | .text _, .null => some .null
  | _, _ => none

def any (xs : List Datum) : Datum :=
  if .truth true ∈ xs then .truth true else if .null ∈ xs then .null else .truth false

/-- A truth value, or the opposite of it. -/
def negatedIf (negated : Bool) : Datum → Datum
  | .truth b => .truth (b != negated)
  | x => x

/-- Whether a text is among others. -/
def among? (x : Datum) (members : List Datum) : Option Datum := (members.mapM x.equals?).map any

/-- Whether a text is matched by a pattern, which has to be one. -/
def like? (escape : Char) : Datum → Datum → Option Datum
  | .text s, .text pattern =>
    (patternParts? escape pattern.toList).map fun parts => .truth (matchesParts parts s.toList)
  | .null, .null | .null, .text _ | .text _, .null => some .null
  | _, _ => none

end Datum

/-- A row as conditions see it: the values of its columns, and how the store writes texts in
capitals. -/
structure StoredRow where
  column : Option String → String → Datum
  upper : String → String

/-- The value of a call. Only those functions are known here that texts are normalized with. -/
def StoredRow.call? (row : StoredRow) : String → List Datum → Option Datum
  | "UPPER", [x] => x.capitals? row.upper
  | "COALESCE", xs => some (.coalesce xs)
  | _, _ => none

/-- The value of a bound value. How numbers are written is the store's own affair. -/
def Value.datum? : Value → Option Datum
  | .text s => some (.text s)
  | .number _ => none

mutual

/-- The value of an expression in a row, with given values bound to the placeholders. Expressions
that do more than test texts have none here. -/
def Expr.datum? (row : StoredRow) (values : List Value) : Expr → Option Datum
  | .column table name => some (row.column table name)
  | .text s => some (.text s)
  | .param 0 => none
  | .param (n + 1) => values[n]?.bind Value.datum?
  | .call function false operands => (exprData? row values operands).bind (row.call? function)
  | .cast operand .text => (operand.datum? row values).map fun x => .ofText? x.text?
  | .among negated operand members =>
    match operand.datum? row values, exprData? row values members with
    | some x, some xs => (x.among? xs).map (.negatedIf negated)
    | _, _ => none
  | .isNull negated operand =>
    (operand.datum? row values).map fun x => .negatedIf negated (.truth (x = .null))
  | .like negated operand pattern escape =>
    match operand.datum? row values, pattern.datum? row values with
    | some x, some p => (x.like? escape p).map (.negatedIf negated)
    | _, _ => none
  | .paren inner => inner.datum? row values
  | _ => none

def exprData? (row : StoredRow) (values : List Value) : List Expr → Option (List Datum)
  | [] => some []
  | e :: rest =>
    match e.datum? row values, exprData? row values rest with
    | some x, some xs => some (x :: xs)
    | _, _ => none

end

end Crosstab.Sql
