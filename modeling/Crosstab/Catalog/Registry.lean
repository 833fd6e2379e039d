import Crosstab.Catalog.Builtin
import Crosstab.Json.Basic

/-!
Where catalogs come from. A `Registry` holds what has been registered; a `Source` is anything that
answers the three questions a catalog is loaded with, and may fail to.
-/

namespace Crosstab

/-- Why a source gave no answer. -/
inductive CatalogFault where
  | unavailable (reason : String)
  | invalid (reason : String)

def CatalogFault.message : CatalogFault → String
  | .unavailable reason => "catalog unavailable: " ++ reason
  | .invalid reason => "catalog entry invalid: " ++ reason

/-- Entities and join rules in order of registration. Columns are kept apart from the entities,
under the ids for which they were given. -/
structure Registry where
  entities : List Entity := []
  columns : List (String × List Column) := []
  joins : List JoinRule := []

namespace Registry

/-- The registry with an entity registered last. An earlier registration under its id is
forgotten. -/
def withEntity (r : Registry) (entity : Entity) (columns : List Column) : Registry :=
  { r with
    entities := r.entities.filter (fun other => other.id ≠ entity.id) ++ [entity]
    columns := Keyed.put entity.id columns r.columns }

def withJoin (r : Registry) (rule : JoinRule) : Registry :=
  { r with joins := r.joins ++ [rule] }

/-- The registered columns of an entity; none if it is not registered. -/
def columnsOf (r : Registry) (id : String) : List Column := (r.columns.lookup id).getD []

def builtin [Text.Titling] : Registry :=
  Builtin.joins.foldl withJoin <|
    Builtin.entities.foldl (fun r entity => r.withEntity entity (Builtin.columns entity.id)) {}

end Registry

/-- The three questions that a catalog is loaded with. -/
structure Source where
  entities : Except CatalogFault (List Entity)
  columns : String → Except CatalogFault (List Column)
  joins : Except CatalogFault (List JoinRule)

/-- A registry always answers. -/
def Registry.source (r : Registry) : Source where
  entities := .ok r.entities
  columns id := .ok (r.columnsOf id)
  joins := .ok r.joins

end Crosstab
