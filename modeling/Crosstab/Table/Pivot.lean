import Crosstab.Column
import Crosstab.Json.Printer
import Crosstab.Table.Row
import Crosstab.Text.Case

/-!
The axes and headers of pivots. Every axis keeps the texts that it shows first, up to a cap, and a
header stands for one combination of kept texts.
-/

namespace Crosstab

open Crosstab.Text

/-- The roles of the columns in a pivot. -/
structure PivotLayout where
  rowKeys : List String
  columnKeys : List String
  measureKeys : List String
  cap : Nat

structure PivotTable where
  /-- The headers in order, the one for everything else last. -/
  headers : List String
  rows : List Row
  /-- Whether any row has a text that its axis did not keep. -/
  overflowed : Bool

/-- The texts kept for an axis unless settings say otherwise. -/
def defaultCap : Nat := 25

def otherHeader : String := "Other"

def headerSeparator : String := " | "

def cellKey (header measure : String) : String := header ++ " - " ++ measure

/-- The text for which a value counts on an axis. -/
def axisText : Option Json → String
  | some (.text s) => s
  | none | some .null => upper missingLabel
  | some value => value.compact

def axisTexts (keys : List String) (row : Row) : List String :=
  keys.map fun key => axisText (row.lookup key)

namespace Pivot

/-- The texts kept for an axis after one more row. A new text is kept as long as there is room for
it. -/
def keep (cap : Nat) (row : Row) (key : String) (kept : List String) : List String :=
  let text := axisText (row.lookup key)
  if kept.length < cap ∧ text ∉ kept then kept ++ [text] else kept

def axisValues (cap : Nat) (rows : List Row) (keys : List String) : List (List String) :=
  rows.foldl (fun kept row => List.zipWith (keep cap row) keys kept) (keys.map fun _ => [])

/-- A header with one more text. A header that is still empty takes the text without a separator. -/
def extendHeader (header text : String) : String :=
  if header.isEmpty then text else header ++ headerSeparator ++ text

/-- The headers of all combinations of texts, the first axis outermost. -/
def combinations (axes : List (List String)) : List String :=
  axes.foldl (fun headers texts => headers.flatMap fun h => texts.map (extendHeader h)) [""]

/-- The forms of a header that are tried in turn: the header, then with a number from two on. -/
def numbered (header : String) (n : Nat) : String :=
  if n = 0 then header else header ++ " (" ++ toString (n + 1) ++ ")"

/-- The first form of a header that is not taken. One of them is free, because there are more forms
than headers taken. -/
def freshHeader (taken : List String) (header : String) : String :=
  ((List.range (taken.length + 1)).find? fun n => !taken.contains (numbered header n)).elim header
    (numbered header)

/-- Headers made different from each other and from those already taken. -/
def distinctHeaders (taken : List String) : List String → List String
  | [] => []
  | header :: rest =>
    let fresh := freshHeader taken header
    fresh :: distinctHeaders (fresh :: taken) rest

end Pivot

end Crosstab
