import Crosstab.Decimal.Layout
import Crosstab.Json.Basic
import Crosstab.Text.Blank

/-!
Writing JSON, without white space (`compact`) or one element to a line (`pretty`).
-/

namespace Crosstab

open Crosstab.Text

/-- The text of a number; a double that is not finite has none and is written as null. -/
def Number.text : Number → String
  | .int n => toString n
  | .float x => if x.isFinite then Decimal.Layout.json.finite x else "null"

namespace Json

/-- A character inside quotes. Quotes, backslashes and control characters are escaped, the latter by
a letter if they have one. -/
def escapeChar (c : Char) : List Char :=
  if c == '"' then ['\\', '"']
  else if c == '\\' then ['\\', '\\']
  else if c.toNat == 8 then ['\\', 'b']
  else if c.toNat == 9 then ['\\', 't']
  else if c.toNat == 10 then ['\\', 'n']
  else if c.toNat == 12 then ['\\', 'f']
  else if c.toNat == 13 then ['\\', 'r']
  else if c.toNat < 32 then
    ['\\', 'u', '0', '0', Nat.digitChar (c.toNat / 16), Nat.digitChar (c.toNat % 16)]
  else [c]

def quoted (s : String) : String :=
  String.ofList ('"' :: s.toList.flatMap escapeChar ++ ['"'])

mutual

def compact : Json → String
  | .null => "null"
  | .bool b => if b then "true" else "false"
  | .number n => n.text
  | .text s => quoted s
  | .list items => "[" ++ joined "," (compactItems items) ++ "]"
  | .object fields => "\x7b" ++ joined "," (compactFields fields) ++ "\x7d"

def compactItems : List Json → List String
  | [] => []
  | item :: rest => compact item :: compactItems rest

def compactFields : List (String × Json) → List String
  | [] => []
  | (key, value) :: rest => (quoted key ++ ":" ++ compact value) :: compactFields rest

end

/-- The start of a line, `depth` levels in. -/
def margin (depth : Nat) : String :=
  String.ofList ('\n' :: List.replicate (2 * depth) ' ')

/-- A container whose elements stand on lines of their own; an empty one stays on its line. -/
def block (opening closing : String) (depth : Nat) (elements : List String) : String :=
  if elements.isEmpty then opening ++ closing
  else
    opening ++ margin (depth + 1) ++ joined ("," ++ margin (depth + 1)) elements ++ margin depth ++
      closing

mutual

/-- The value as it stands `depth` levels inside others. -/
def prettyAt (depth : Nat) : Json → String
  | .null => "null"
  | .bool b => if b then "true" else "false"
  | .number n => n.text
  | .text s => quoted s
  | .list items => block "[" "]" depth (prettyItems depth items)
  | .object fields => block "\x7b" "\x7d" depth (prettyFields depth fields)

def prettyItems (depth : Nat) : List Json → List String
  | [] => []
  | item :: rest => prettyAt (depth + 1) item :: prettyItems depth rest

def prettyFields (depth : Nat) : List (String × Json) → List String
  | [] => []
  | (key, value) :: rest =>
    (quoted key ++ ": " ++ prettyAt (depth + 1) value) :: prettyFields depth rest

end

/-- The value with one element to a line, each level two spaces further in. -/
def pretty (value : Json) : String := prettyAt 0 value

end Json

end Crosstab
