import Crosstab.Catalog.Registry
import Crosstab.Naming
import Crosstab.Statement.Compile
import Crosstab.Table.Pivot

/-!
Settings: where statements run, which limits apply, what tables and columns are called, and what the
catalog holds. Every part has defaults; texts are kept as they are written and read when they are
used.
-/

namespace Crosstab

structure Limits where
  /-- The largest number of rows that is returned. -/
  maxLimit : UInt64 := 1000
  /-- The number of texts that an axis of a pivot keeps. -/
  valueCap : Nat := defaultCap
  /-- The largest number of rows that a pivot is made of. -/
  sourceLimit : UInt64 := defaultSourceLimit
deriving DecidableEq

structure PoolSettings where
  maxOpen : Nat := 4
  acquireTimeout : String := "5s"
  queryTimeout : String := "30s"

structure StoreSettings where
  driver : String := "sqlite"
  /-- The path of a database file or the address of a server, with references to variables. -/
  connection : String := "tabula.db"
  /-- The program that talks to the server, with references to variables. -/
  workerPath : Option String := none
  pool : PoolSettings := {}

structure MappingSettings where
  schema : Option String := none
  /-- The table of an entity. -/
  tables : List (String × String) := []
  /-- The columns of the fields of an entity. -/
  fields : List (String × List (String × String)) := []

structure ColumnSettings where
  field : String
  label : Option String := none
  kind : ValueKind := .text
  aggregatable : Option Bool := none

structure EntitySettings where
  id : String
  displayName : Option String := none
  columns : List ColumnSettings := []

structure JoinSettings where
  source : String
  target : String
  pairs : List FieldPair := []
  defaultKind : Option JoinKind := none
  supportedKinds : Option (List JoinKind) := none
  isDefault : Bool := false

structure CatalogSettings where
  entities : List EntitySettings := []
  joins : List JoinSettings := []

structure Settings where
  store : StoreSettings := {}
  query : Limits := {}
  mapping : MappingSettings := {}
  catalog : CatalogSettings := {}

def MappingSettings.naming (m : MappingSettings) : Naming where
  schema := m.schema
  tables := m.tables
  fields := m.fields.flatMap fun (entity, columns) =>
    columns.map fun (field, column) => ((entity, field), column)

/-- The column of an entity. It can be aggregated if it holds numbers, unless it says otherwise. -/
def ColumnSettings.column (c : ColumnSettings) (entity : String) : Column :=
  Column.labeled {
    entity, field := c.field, label := c.label.getD "", kind := c.kind
    aggregatable := c.aggregatable.getD (c.kind = .numeric) }

/-- The entity, under the title of its id unless it has a name. -/
def EntitySettings.entity (e : EntitySettings) : Entity :=
  match e.displayName with
  | some displayName => { id := e.id, displayName }
  | none => .ofId e.id

/-- The join rule, a left join that allows every kind unless it says otherwise. -/
def JoinSettings.rule (j : JoinSettings) : JoinRule :=
  { source := j.source, target := j.target, pairs := j.pairs
    defaultKind := j.defaultKind.getD .left
    supportedKinds := j.supportedKinds.getD JoinKind.all
    isDefault := j.isDefault }

namespace CatalogSettings

def isEmpty (c : CatalogSettings) : Bool := c.entities.isEmpty && c.joins.isEmpty

def registry (c : CatalogSettings) : Registry :=
  let entities := c.entities.foldl
    (fun r e => r.withEntity e.entity (e.columns.map fun column => column.column e.id)) {}
  c.joins.foldl (fun r j => r.withJoin j.rule) entities

end CatalogSettings

end Crosstab
