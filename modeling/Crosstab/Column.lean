import Crosstab.Document.Decode
import Crosstab.Text.Blank
import Crosstab.Text.Title

/-!
Columns: the named fields of an entity, with the kind of their values, the directions in which rows
can be ordered by them, and the form in which they are written.
-/

namespace Crosstab

open Crosstab.Text

/-- How the values of a column compare and whether they can be added up. -/
inductive ValueKind where
  | text
  | numeric
  | date
deriving DecidableEq

/-- The kinds by name. -/
def ValueKind.names : List (String × ValueKind) :=
  [("text", .text), ("numeric", .numeric), ("date", .date)]

def ValueKind.name : ValueKind → String
  | .text => "text"
  | .numeric => "numeric"
  | .date => "date"

inductive SortDirection where
  | asc
  | desc
deriving DecidableEq

def SortDirection.name : SortDirection → String
  | .asc => "asc"
  | .desc => "desc"

/-- What a missing value counts as in groups. -/
def missingLabel : String := "Unknown"

/-- A field of an entity. The entity and the field identify it; all else is description. -/
structure Column where
  entity : String
  field : String
  label : String := ""
  kind : ValueKind := .text
  /-- Whether sums, averages and extremes of it make sense. -/
  aggregatable : Bool := false
deriving DecidableEq

namespace Column

/-- The column with a label: its own, or the title of its field if its own is blank. -/
def labeled [Titling] (column : Column) : Column :=
  if isBlankText column.label then { column with label := Titling.title column.field } else column

def ofTexts [Titling] (entity field : String) : Column :=
  labeled { entity, field }

/-- A column of numbers, which can be aggregated. -/
def ofNumbers [Titling] (entity field : String) : Column :=
  labeled { entity, field, kind := .numeric, aggregatable := true }

def ofDates [Titling] (entity field : String) : Column :=
  labeled { entity, field, kind := .date }

def isSummable (column : Column) : Bool :=
  column.kind = .numeric && column.aggregatable

end Column

/-- The column that a document describes. Label, kind and use in aggregates may be left out. -/
def Column.ofDocument? (d : Document) : Option Column := do
  let fields ←
    d.fields? .json ["entity", "field", "label", "semanticType", "aggregatable"]
  let entity ← Document.required? fields "entity" Document.text?
  let field ← Document.required? fields "field" Document.text?
  let label ← Document.optional? fields "label" "" Document.text?
  let kind ←
    Document.optional? fields "semanticType" .text (Document.constant? .json ValueKind.names)
  let aggregatable ← Document.optional? fields "aggregatable" false Document.bool?
  some { entity, field, label, kind, aggregatable }

def Column.toJson (column : Column) : Json :=
  .object [
    ("entity", .text column.entity),
    ("field", .text column.field),
    ("label", .text column.label),
    ("semanticType", .text column.kind.name),
    ("aggregatable", .bool column.aggregatable)]

end Crosstab
