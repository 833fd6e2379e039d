import Crosstab.Table.Pivot

/-!
Rows spread over columns on a machine. Rows are read one by one: each is put into its group, and
there its values are added to the cells of its combination, or to those for everything else if an
axis did not keep its text. Places are counted in words of 64 bits, which wrap around, and no list
takes more bytes than a word with a sign can count. A pivot that does not fit into this ends without
a table.
-/

namespace Crosstab

namespace Pivot

/-- The most bytes that one list takes: the largest number with sign in a word. -/
def maxBytes : Nat := 9223372036854775807

/-- The bytes that a header takes in a list, without its text. -/
def headerBytes : Nat := 24

/-- The bytes that a cell takes. -/
def cellBytes : Nat := 16

def combinationCount (axes : List (List String)) : Nat :=
  axes.foldr (fun kept count => kept.length * count) 1

/-- The number of combinations, as a word. -/
def headerCount (axes : List (List String)) : UInt64 :=
  axes.foldl (fun count kept => count * .ofNat kept.length) 1

/-- The place of a combination among all combinations as a word, if every axis keeps its text. -/
def place? : List (List String) → List String → UInt64 → Option UInt64
  | kept :: axes, text :: texts, before =>
    match kept.idxOf? text with
    | some i => place? axes texts (before * .ofNat kept.length + .ofNat i)
    | none => none
  | _, _, before => some before

/-- A list with a part of it replaced, if there is such a part. -/
def modifyPart? {α : Type} (start stop : Nat) (f : List α → List α) (xs : List α) :
    Option (List α) :=
  if start ≤ stop ∧ stop ≤ xs.length then
    some (xs.take start ++ (f ((xs.drop start).take (stop - start)) ++ xs.drop stop))
  else none

/-- A list in pieces of `n`, the last one of which may be shorter. -/
def chunks {α : Type} (n : Nat) : List α → List (List α)
  | [] => []
  | x :: xs => (x :: xs.take (n - 1)) :: chunks n (xs.drop (n - 1))
termination_by xs => xs.length

/-- The sums of a group while its rows are read. One that no row has been added to is missing. -/
structure Sums where
  /-- The sums under each header, measure by measure. -/
  cells : List (Option Float)
  /-- The sums over the rows without a combination. -/
  other : List (Option Float)

/-- Sums with the values of a row added to them, one for each measure. -/
def addValues (measures : List String) (row : Row) (sums : List (Option Float)) :
    List (Option Float) :=
  List.zipWith (fun sum measure =>
    some (sum.getD 0 + Json.addend (row.lookup measure))) sums measures

namespace Sums

/-- Sums with a row added at its place, if the cells reach that far. -/
def add? (measures : List String) (row : Row) (place : Option UInt64) (sums : Sums) : Option Sums :=
  match place with
  | some h =>
    let width : UInt64 := .ofNat measures.length
    (modifyPart? (h * width).toNat ((h + 1) * width).toNat (addValues measures row) sums.cells).map
      fun cells => { sums with cells }
  | none => some { sums with other := addValues measures row sums.other }

/-- The pieces that are paired with the headers. Pieces have a length even if there are no
measures. -/
def pieces (measures : List String) (overflowed : Bool) (sums : Sums) :
    List (List (Option Float)) :=
  chunks (max measures.length 1) sums.cells ++ if overflowed then [sums.other] else []

end Sums

/-- The rows with the same texts under the row keys, as far as they have been read. -/
structure Group where
  id : List String
  /-- What the first row has under the row keys. -/
  values : List (String × Json)
  sums : Sums

/-- A sum as a cell. An empty cell and one that no number denotes are a plain zero. -/
def cellValue : Option Float → Json
  | some x => if x.isFinite then .float x else .int 0
  | none => .int 0

namespace Group

/-- The group that a row begins, if there is room for its cells. -/
def begin? (layout : PivotLayout) (count : UInt64) (row : Row) : Option Group :=
  let measures := layout.measureKeys.length
  let cells := (count * .ofNat measures).toNat
  if cellBytes * cells ≤ maxBytes then
    some {
      id := axisTexts layout.rowKeys row
      values := layout.rowKeys.map fun key => (key, (row.lookup key).getD .null)
      sums := ⟨List.replicate cells none, List.replicate measures none⟩ }
  else none

/-- A group with a row added to it if it is the group of the row. -/
def add? (layout : PivotLayout) (axes : List (List String)) (row : Row) (g : Group) :
    Option Group :=
  if g.id = axisTexts layout.rowKeys row then
    (g.sums.add? layout.measureKeys row (place? axes (axisTexts layout.columnKeys row) 0)).map
      fun sums => { g with sums }
  else some g

/-- The output row of a group: its values, and under each header the piece that it is paired
with. -/
def outputRow (layout : PivotLayout) (headers : List String) (overflowed : Bool) (g : Group) :
    Row :=
  Keyed.ofPairs <|
    g.values ++
      (headers.zip (g.sums.pieces layout.measureKeys overflowed)).flatMap fun (header, piece) =>
        (layout.measureKeys.zip piece).map fun (measure, sum) =>
          (cellKey header measure, cellValue sum)

end Group

/-- What is known of the rows that have been read. -/
structure Spread where
  /-- The groups, in the order in which they began. -/
  groups : List Group := []
  /-- Whether a row had no combination. -/
  overflowed : Bool := false

namespace Spread

/-- The groups when a row is about to be added. If its group is not there, the row begins it. -/
def open? (layout : PivotLayout) (axes : List (List String)) (s : Spread) (row : Row) :
    Option (List Group) :=
  if s.groups.any (·.id = axisTexts layout.rowKeys row) then some s.groups
  else (Group.begin? layout (headerCount axes) row).map fun g => s.groups ++ [g]

/-- One more row read. -/
def add? (layout : PivotLayout) (axes : List (List String)) (s : Spread) (row : Row) :
    Option Spread := do
  let groups ← s.open? layout axes row
  let groups ← groups.mapM (Group.add? layout axes row)
  let place := place? axes (axisTexts layout.columnKeys row) 0
  return { groups, overflowed := s.overflowed || place.isNone }

end Spread

end Pivot

open Pivot in
/-- Rows spread over columns, if there is room for it. -/
def pivot? (rows : List Row) (layout : PivotLayout) : Option PivotTable := do
  let axes := axisValues (max layout.cap 1) rows layout.columnKeys
  let spread ← rows.foldlM (Spread.add? layout axes) {}
  if headerBytes * combinationCount axes ≤ maxBytes then
    let other := if spread.overflowed then [otherHeader] else []
    let headers := distinctHeaders other (combinations axes) ++ other
    some {
      headers
      rows := spread.groups.map (Group.outputRow layout headers spread.overflowed)
      overflowed := spread.overflowed }
  else none

end Crosstab
