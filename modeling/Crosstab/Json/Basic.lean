/-!
JSON values. Numbers are integers of 64 bits, signed or not, or doubles; objects keep their fields
in order. Keyed lists are pairs in the order in which their keys were first put. They serve wherever
the order of keys can be seen, as in rows, documents and catalogs; `List.lookup` reads them.
-/

namespace Crosstab

inductive Number where
  | int (n : Int)
  | float (x : Float)

inductive Json where
  | null
  | bool (b : Bool)
  | number (n : Number)
  | text (s : String)
  | list (items : List Json)
  | object (fields : List (String × Json))

instance : Inhabited Json := ⟨.null⟩

def Json.int (n : Int) : Json := .number (.int n)

/-- A double as a value: there is none for the infinities and the undefined value. -/
def Json.float (x : Float) : Json := if x.isFinite then .number (.float x) else .null

/-- A text that may be missing. -/
def Json.ofText? : Option String → Json
  | some s => .text s
  | none => .null

def Json.texts (ss : List String) : Json := .list (ss.map .text)

def Json.isNull : Json → Bool
  | .null => true
  | _ => false

namespace Keyed

variable {α β : Type}

/-- The list with the value at a key. A key that is already there keeps its place. -/
def put [BEq α] (key : α) (value : β) : List (α × β) → List (α × β)
  | [] => [(key, value)]
  | (k, v) :: rest => if k == key then (key, value) :: rest else (k, v) :: put key value rest

/-- The pairs put one after the other, so that the last value of a key counts and its first
place. -/
def ofPairs [BEq α] (pairs : List (α × β)) : List (α × β) :=
  pairs.foldl (fun done pair => put pair.1 pair.2 done) []

/-- The elements without later repetitions, in order of first appearance. -/
def distinct [BEq α] (xs : List α) : List α :=
  xs.foldl (fun seen x => if seen.contains x then seen else seen ++ [x]) []

end Keyed

end Crosstab
