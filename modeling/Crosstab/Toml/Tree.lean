import Crosstab.Document.Basic

/-!
The tree of tables that a TOML text builds. Its statements may come in any order, but no table is
defined twice: how a table came to be says which statements may still reach into it.
-/

namespace Crosstab.Toml

/-- How a table came to be: on the way to the table of a header, by a dotted key, or by its own
header. -/
inductive Origin where
  | implied
  | dotted
  | header
deriving DecidableEq

/-- What a name stands for. A value is closed, inline tables and arrays included; an array of tables
has a last element, which is still open, and those before it, the latest first. -/
inductive Node where
  | value (d : Document)
  | table (origin : Origin) (entries : List (String × Node))
  | tables (last : List (String × Node)) (earlier : List (List (String × Node)))

/-- The names of an open table. -/
abbrev Entries := List (String × Node)

structure Key where
  path : List String
  name : String

inductive Statement where
  | assign (key : Key) (value : Document)
  | openTable (key : Key)
  | openElement (key : Key)

/-- The entries after a change at the table where a path leads. Missing tables on the way are
created. A dotted key does not lead through a table that has a header. -/
def Entries.edit (dotted : Bool) (change : Origin → Entries → Option Entries) :
    List String → Origin → Entries → Option Entries
  | [], origin, entries => change origin entries
  | name :: path, _, entries =>
    let created : Origin := if dotted then .dotted else .implied
    match entries.lookup name with
    | none =>
      (Entries.edit dotted change path created []).map fun inner =>
        entries ++ [(name, .table created inner)]
    | some (.table origin inner) =>
      if dotted && origin = .header then none
      else
        (Entries.edit dotted change path origin inner).map fun changed =>
          Keyed.put name (.table origin changed) entries
    | some (.tables last earlier) =>
      (Entries.edit dotted change path .header last).map fun changed =>
        Keyed.put name (.tables changed earlier) entries
    | some (.value _) => none

/-- A value put under a new name. The table that receives it by a dotted key has to be one that
dotted keys created, and the other way round. -/
def Entries.assign (key : Key) (d : Document) (origin : Origin) (entries : Entries) :
    Option Entries :=
  Entries.edit true
    (fun origin entries =>
      if (origin = .dotted) ↔ key.path ≠ [] then
        match entries.lookup key.name with
        | none => some (entries ++ [(key.name, .value d)])
        | some _ => none
      else none)
    key.path origin entries

/-- The table of a header, which is new or has only been implied so far. -/
def Entries.openTable (key : Key) (entries : Entries) : Option Entries :=
  Entries.edit false
    (fun _ entries =>
      match entries.lookup key.name with
      | none => some (entries ++ [(key.name, .table .header [])])
      | some (.table .implied inner) => some (Keyed.put key.name (.table .header inner) entries)
      | some _ => none)
    key.path .header entries

/-- One more element of an array of tables. -/
def Entries.openElement (key : Key) (entries : Entries) : Option Entries :=
  Entries.edit false
    (fun _ entries =>
      match entries.lookup key.name with
      | none => some (entries ++ [(key.name, .tables [] [])])
      | some (.tables last earlier) =>
        some (Keyed.put key.name (.tables [] (last :: earlier)) entries)
      | some _ => none)
    key.path .header entries

/-- The tree built so far, and the table whose entries come next. -/
structure Tree where
  entries : Entries := []
  current : List String := []

/-- The tree after one more statement, if it may be made there. -/
def Tree.apply (tree : Tree) : Statement → Option Tree
  | .assign key d =>
    (Entries.edit false (Entries.assign key d) tree.current .header tree.entries).map
      fun entries => { tree with entries }
  | .openTable key =>
    (tree.entries.openTable key).map fun entries => ⟨entries, key.path ++ [key.name]⟩
  | .openElement key =>
    (tree.entries.openElement key).map fun entries => ⟨entries, key.path ++ [key.name]⟩

mutual

def Node.toDocument : Node → Document
  | .value d => d
  | .table _ entries => .record (fieldsOf entries)
  | .tables last earlier => .list ((elementsOf earlier).reverse ++ [.record (fieldsOf last)])

def fieldsOf : List (String × Node) → List (String × Document)
  | [] => []
  | (name, node) :: rest => (name, node.toDocument) :: fieldsOf rest

def elementsOf : List (List (String × Node)) → List Document
  | [] => []
  | entries :: rest => .record (fieldsOf entries) :: elementsOf rest

end

/-- The document that a list of statements builds. -/
def build? (statements : List Statement) : Option Document :=
  (statements.foldlM Tree.apply {}).map fun tree => .record (fieldsOf tree.entries)

end Crosstab.Toml
