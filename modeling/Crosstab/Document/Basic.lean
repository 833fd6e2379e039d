import Crosstab.Json.Basic

/-!
Documents: what a JSON or TOML source says before it is known what it is meant to be. A document
keeps repeated keys and the parts that denote no value, because both are harmless where nobody
looks: a reader of records ignores fields that it does not know, whatever they hold.
-/

namespace Crosstab

/-- A tree of named and listed parts. -/
inductive Document where
  | null
  | bool (b : Bool)
  | number (n : Number)
  | text (s : String)
  | list (items : List Document)
  | record (fields : List (String × Document))
  /-- A part that is well formed and denotes nothing: a number beyond the doubles, a text with half
  a surrogate pair, or a container nested too deep. -/
  | invalid

namespace Document

mutual

def ofJson : Json → Document
  | .null => .null
  | .bool b => .bool b
  | .number n => .number n
  | .text s => .text s
  | .list items => .list (ofJsonItems items)
  | .object fields => .record (ofJsonFields fields)

def ofJsonItems : List Json → List Document
  | [] => []
  | item :: rest => ofJson item :: ofJsonItems rest

def ofJsonFields : List (String × Json) → List (String × Document)
  | [] => []
  | (key, value) :: rest => (key, ofJson value) :: ofJsonFields rest

end

mutual

/-- The JSON value that a document denotes, if every part of it denotes one. Of fields with one name
the last counts. -/
def toJson? : Document → Option Json
  | .null => some .null
  | .bool b => some (.bool b)
  | .number n => some (.number n)
  | .text s => some (.text s)
  | .list items => (toJsonItems? items).map .list
  | .record fields => (toJsonFields? fields).map fun pairs => .object (Keyed.ofPairs pairs)
  | .invalid => none

def toJsonItems? : List Document → Option (List Json)
  | [] => some []
  | item :: rest =>
    match toJson? item, toJsonItems? rest with
    | some value, some values => some (value :: values)
    | _, _ => none

def toJsonFields? : List (String × Document) → Option (List (String × Json))
  | [] => some []
  | (key, item) :: rest =>
    match toJson? item, toJsonFields? rest with
    | some value, some values => some ((key, value) :: values)
    | _, _ => none

end

end Document

end Crosstab
