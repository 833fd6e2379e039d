import Crosstab.Decimal.Reader
import Crosstab.Json.Basic
import Crosstab.Text.Blank

/-!
Rows. A store answers with columns and bare values; each value is then put under the name of its
column. Stores send decimals and large integers as texts, which count as numbers wherever they are
written as such.
-/

namespace Crosstab

open Crosstab.Text

def Number.toFloat : Number → Float
  | .int n => Decimal.ofInt n
  | .float x => x

namespace Json

/-- A cell with a text that denotes a number replaced by that number; every other cell as it is. -/
def normalizeNumber (value : Json) : Json :=
  match value with
  | .text s =>
    match Decimal.readInt64? (trim s) with
    | some n => .int n
    | none =>
      match (Decimal.readFloat? (trim s)).filter Float.isFinite with
      | some x => .float x
      | none => value
  | _ => value

/-- What a cell contributes to a sum: a number, a text that denotes one, or else nothing. -/
def addend : Option Json → Float
  | some (.number n) => n.toFloat
  | some (.text s) => (Decimal.readFloat? (trim s)).getD 0
  | _ => 0

end Json

abbrev Row := List (String × Json)

structure RowSet where
  columns : List String := []
  rows : List (List Json) := []

/-- A row whose number of values is not that of the columns. -/
structure ShapeFault where
  expected : Nat
  found : Nat
deriving DecidableEq

def ShapeFault.message (fault : ShapeFault) : String :=
  "row has " ++ toString fault.found ++ " values for " ++ toString fault.expected ++ " columns"

/-- A row's values under the names of the columns. Measures become numbers where they can. Of
columns with one name the last value counts. -/
def keyRow (measures columns : List String) (values : List Json) : Except ShapeFault Row :=
  if values.length = columns.length then
    .ok <| Keyed.ofPairs <| (columns.zip values).map fun (name, value) =>
      (name, if measures.contains name then value.normalizeNumber else value)
  else .error ⟨columns.length, values.length⟩

/-- All rows of an answer, or the first fault in their shapes. -/
def RowSet.keyed (measures : List String) (set : RowSet) : Except ShapeFault (List Row) :=
  set.rows.mapM (keyRow measures set.columns)

def Row.toJson (row : Row) : Json := .object row

end Crosstab
