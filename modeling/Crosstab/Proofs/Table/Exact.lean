import Crosstab.Table.Spread

/-!
Pivots in exact arithmetic. Places are counted without bounds here, every group has all of its rows
at once, and a table is written down as a whole. What a machine makes of rows that it has room for
is proved to be the same.
-/

namespace Crosstab

namespace Pivot

/-- The texts kept for an axis: those that appear first, at most `cap` of them. -/
def keptTexts (cap : Nat) (rows : List Row) (key : String) : List String :=
  (Keyed.distinct (rows.map fun row => axisText (row.lookup key))).take cap

/-- The position of a combination among all combinations, if every axis keeps its text. -/
def position? : List (List String) → List String → Nat → Option Nat
  | kept :: axes, text :: texts, before =>
    match kept.idxOf? text with
    | some i => position? axes texts (before * kept.length + i)
    | none => none
  | _, _, before => some before

/-- The sum of a measure over rows, from the left; there is none without rows. -/
def total? (measure : String) (rows : List Row) : Option Float :=
  if rows.isEmpty then none
  else some (rows.foldl (fun sum row => sum + Json.addend (row.lookup measure)) 0)

/-- The rows with the position of their combination. -/
abbrev Placed := List (Option Nat × Row)

/-- The rows of a group at a position. -/
def rowsAt (position : Option Nat) (group : Placed) : List Row :=
  (group.filter fun placed => placed.1 == position).map Prod.snd

/-- The cells of a group under one header. -/
def cells (measures : List String) (group : Placed) (header : String) (position : Option Nat) :
    Row :=
  let rows := rowsAt position group
  measures.map fun measure => (cellKey header measure, cellValue (total? measure rows))

/-- The output row of a group: the values under the row keys as its first row has them, and the
cells under each header. -/
def outputRow (layout : PivotLayout) (headers : List (String × Option Nat)) (group : Placed) :
    Row :=
  let first := (group.head?.map Prod.snd).getD []
  Keyed.ofPairs <|
    layout.rowKeys.map (fun key => (key, (first.lookup key).getD .null)) ++
      headers.flatMap fun (header, position) => cells layout.measureKeys group header position

end Pivot

open Pivot in
/-- Rows spread over columns in exact arithmetic. -/
def pivot (rows : List Row) (layout : PivotLayout) : PivotTable :=
  let axes := layout.columnKeys.map (keptTexts (max layout.cap 1) rows)
  let placed := rows.map fun row => (position? axes (axisTexts layout.columnKeys row) 0, row)
  let overflowed := placed.any fun p => p.1.isNone
  let named := distinctHeaders (if overflowed then [otherHeader] else []) (combinations axes)
  let headers :=
    (named.zipIdx.map fun (header, i) => (header, some i)) ++
      if overflowed then [(otherHeader, none)] else []
  let ids := Keyed.distinct (rows.map (axisTexts layout.rowKeys))
  let groups := ids.map fun id => placed.filter fun p => axisTexts layout.rowKeys p.2 == id
  { headers := headers.map Prod.fst, rows := groups.map (outputRow layout headers), overflowed }

end Crosstab
