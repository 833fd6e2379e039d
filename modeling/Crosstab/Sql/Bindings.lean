import Crosstab.Decimal.Layout
import Crosstab.Json.Basic
import Crosstab.Sql.Expr

/-!
Bound values. Whatever a caller sends reaches the store beside the statement, which holds only
numbered placeholders for it.
-/

namespace Crosstab.Sql

inductive Value where
  | text (s : String)
  | number (x : Float)

namespace Value

def display : Value → String
  | .text s => "'" ++ s ++ "'"
  | .number x => Decimal.display x

def toJson : Value → Json
  | .text s => .text s
  | .number x => .float x

end Value

/-- The values bound so far, in the order of their placeholders. -/
structure Bindings where
  values : List Value := []

namespace Bindings

def size (b : Bindings) : Nat := b.values.length

def isEmpty (b : Bindings) : Bool := b.values.isEmpty

/-- The number of the placeholder for the value that is bound next. -/
def next (b : Bindings) : Nat := b.size + 1

def append (b : Bindings) (values : List Value) : Bindings := ⟨b.values ++ values⟩

/-- One more value bound, and the expression that stands for it. -/
def bind (b : Bindings) (value : Value) : Expr × Bindings := (.param b.next, b.append [value])

end Bindings

end Crosstab.Sql
