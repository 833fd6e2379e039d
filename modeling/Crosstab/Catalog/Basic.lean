import Crosstab.Catalog.Registry
import Crosstab.Join.Json

/-!
Catalogs: the entities, columns and joins that one request is checked against, all fetched
beforehand. Loading fills the gaps of its source from the built-in catalog.
-/

namespace Crosstab

/-- What is known of the entities that requests may name. -/
structure Catalog where
  entities : List Entity
  columns : List (String × List Column)
  joins : List JoinRule

namespace Catalog

def hasEntity (c : Catalog) (id : String) : Bool :=
  c.entities.any fun entity => entity.id = id

def columnsOf (c : Catalog) (entity : String) : List Column :=
  (c.columns.lookup entity).getD []

/-- The first column of an entity with a given field. -/
def column? (c : Catalog) (entity field : String) : Option Column :=
  (c.columnsOf entity).find? fun column => column.field = field

/-- The rule for joining two entities, as seen from `source`. A preferred rule wins over others for
the same entities, and an earlier one over a later one. -/
def joinRule? (c : Catalog) (source target : String) : Option JoinRule :=
  let candidates := c.joins.filterMap fun rule => rule.oriented? source target
  (candidates.find? JoinRule.isDefault).or candidates.head?

/-- The columns of an entity as its source lists them, or its built-in ones if none are listed. Each
belongs to that entity and has a label. -/
def resolvedColumns [Text.Titling] (id : String) (listed : List Column) : List Column :=
  (if listed.isEmpty then Builtin.columns id else listed).map fun column =>
    Column.labeled { column with entity := id }

/-- The catalog of a source. A source without entities has the built-in ones, and one without joins
the built-in join; joins between entities that are not listed are left out. -/
def load [Text.Titling] (source : Source) : Except CatalogFault Catalog := do
  let listed ← source.entities
  let entities := if listed.isEmpty then Builtin.entities else listed
  let columns ← entities.mapM fun entity => do
    let columns ← source.columns entity.id
    pure (entity.id, resolvedColumns entity.id columns)
  let rules ← source.joins
  let isListed := fun id => entities.any fun entity => entity.id = id
  let joins := (if rules.isEmpty then Builtin.joins else rules).filter fun rule =>
    isListed rule.source && isListed rule.target
  return { entities, columns, joins }

end Catalog

/-- A catalog with the columns of each entity beside its description. -/
def Catalog.toJson (c : Catalog) : Json :=
  .object [
    ("entities", .list (c.entities.map fun entity =>
      .object [
        ("info", entity.toJson),
        ("columns", .list ((c.columnsOf entity.id).map Column.toJson))])),
    ("joins", .list (c.joins.map JoinRule.toJson))]

/-- A catalog with the columns of each entity among its fields. -/
def Catalog.listing (c : Catalog) : Json :=
  .object [
    ("entities", .list (c.entities.map fun entity =>
      .object (entity.jsonFields ++
        [("columns", .list ((c.columnsOf entity.id).map Column.toJson))]))),
    ("joins", .list (c.joins.map JoinRule.toJson))]

end Crosstab
