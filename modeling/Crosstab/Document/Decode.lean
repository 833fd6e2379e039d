import Crosstab.Document.Basic

/-!
Reading typed values out of documents. A record may be written with names or, in the order of its
declaration, as a list; a constant may be written as its name or as a record whose only field bears
that name.
-/

namespace Crosstab

/-- What a source format settles for its documents. -/
structure Convention where
  /-- What stands beside the name of a constant written as a record. -/
  isEmptyPayload : Document → Bool
  /-- Whether a record written as a list may not have more elements than the record has fields. -/
  exactLength : Bool

/-- In JSON the name of a constant stands beside null. -/
def Convention.json : Convention where
  isEmptyPayload
    | .null => true
    | _ => false
  exactLength := true

/-- In TOML, which has no null, the name of a constant stands beside an empty container. -/
def Convention.toml : Convention where
  isEmptyPayload
    | .list [] => true
    | .record [] => true
    | _ => false
  exactLength := false

namespace Document

variable {α : Type}

/-- The fields of a record that have one of the given names. A name that occurs twice is refused. -/
def fields? (c : Convention) (names : List String) : Document → Option (List (String × Document))
  | .record fields =>
    let known := fields.filter fun field => names.contains field.1
    if (known.map Prod.fst).Nodup then some known else none
  | .list items =>
    if c.exactLength && names.length < items.length then none else some (names.zip items)
  | _ => none

def required? (fields : List (String × Document)) (name : String) (read : Document → Option α) :
    Option α :=
  (fields.lookup name).bind read

/-- A field that stands for a default if it is missing, but may not be null in its place. -/
def optional? (fields : List (String × Document)) (name : String) (default : α)
    (read : Document → Option α) : Option α :=
  match fields.lookup name with
  | none => some default
  | some d => read d

/-- A field that may be missing or null. -/
def nullable? (fields : List (String × Document)) (name : String) (read : Document → Option α) :
    Option (Option α) :=
  match fields.lookup name with
  | none => some none
  | some .null => some none
  | some d => (read d).map some

def text? : Document → Option String
  | .text s => some s
  | _ => none

def bool? : Document → Option Bool
  | .bool b => some b
  | _ => none

def int64? : Document → Option Int
  | .number (.int n) =>
    if -(Nat.pow 2 63 : Int) ≤ n && n < (Nat.pow 2 63 : Int) then some n else none
  | _ => none

/-- A natural number of at most so many bits. A double is refused even if it is whole. -/
def word? (bits : Nat) : Document → Option Nat
  | .number (.int n) => if 0 ≤ n && n < (Nat.pow 2 bits : Int) then some n.toNat else none
  | _ => none

def word64? (d : Document) : Option UInt64 := (d.word? 64).map UInt64.ofNat

def list? (read : Document → Option α) : Document → Option (List α)
  | .list items => items.mapM read
  | _ => none

/-- A record with arbitrary names, each field read in the same way. -/
def entries? (read : Document → Option α) : Document → Option (List (String × α))
  | .record fields =>
    (fields.mapM fun field => (read field.2).map (field.1, ·)).map Keyed.ofPairs
  | _ => none

/-- One of a list of named constants. -/
def constant? (c : Convention) (names : List (String × α)) : Document → Option α
  | .text s => names.lookup s
  | .record [(name, payload)] => if c.isEmptyPayload payload then names.lookup name else none
  | _ => none

end Document

end Crosstab
