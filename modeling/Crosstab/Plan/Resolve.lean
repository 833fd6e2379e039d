import Crosstab.Catalog.Basic
import Crosstab.Plan.Operand

/-!
From specifications to plans. A specification is checked against a catalog, part by part, and
rejected for the first fault found. What the caller says about columns is ignored: only entity and
field count, and the rest comes from the catalog.
-/

namespace Crosstab

open Crosstab.Text

/-- Every key is given, and no key is given twice. -/
def checkKeys (seen : List String) : List String → Except Rejection Unit
  | [] => .ok ()
  | key :: rest =>
    if isBlankText key then .error (.spec .emptyKey)
    else if seen.contains key then .error (.spec (.duplicateKey key))
    else checkKeys (key :: seen) rest

namespace Catalog

variable (c : Catalog)

def checkEntities (entities : List String) : Except Rejection Unit :=
  match entities.find? fun entity => !c.hasEntity entity with
  | some entity => .error (.spec (.unknownEntity entity))
  | none => .ok ()

def resolveColumn (column : Column) : Except Rejection Column :=
  if c.hasEntity column.entity then
    match c.column? column.entity column.field with
    | some entry => .ok entry
    | none => .error (.spec (.unknownField column.entity column.field))
  else .error (.spec (.unknownEntity column.entity))

def resolveAxis (d : Dimension) : Except Rejection PlannedAxis :=
  (c.resolveColumn d.column).map fun column => { key := d.key, column }

def resolveMeasure (m : Measure) : Except Rejection PlannedMeasure := do
  let column ← c.resolveColumn m.column
  if m.aggregation.requiresNumeric && !column.isSummable then
    .error (.spec (.aggregationMismatch m.aggregation column.entity column.field column.kind))
  else .ok { key := m.key, column, aggregation := m.aggregation }

def resolveFilter (f : Filter) : Except Rejection PlannedFilter := do
  let column ← c.resolveColumn f.column
  match FilterValue.read column.kind f.operator f.value with
  | .ok value => .ok { column, operator := f.operator, value }
  | .error fault => .error (.spec (.invalidValue column.entity column.field f.operator fault))

def resolveSort (keys : List String) (s : SortKey) : Except Rejection SortKey :=
  if keys.contains s.key then .ok s else .error (.spec (.unknownSortKey s.key))

def checkField (entity field : String) : Except Rejection Unit :=
  if (c.column? entity field).isSome then .ok () else .error (.spec (.unknownField entity field))

/-- Every condition relates a field of the left entity to one of the right. -/
def checkPairs (left right : String) : List FieldPair → Except Rejection Unit
  | [] => .ok ()
  | pair :: rest => do
    c.checkField left pair.leftField
    c.checkField right pair.rightField
    checkPairs left right rest

/-- The conditions with both fields named, blanks around the names removed. -/
def completePairs (pairs : List FieldPair) : List FieldPair :=
  (pairs.filter FieldPair.isComplete).map FieldPair.trimmed

/-- The join of a query over two entities. The relationship has to be given, with conditions of its
own, and to be of a kind that projects both sides and that the catalog's rule for the two allows. -/
def resolveJoin (relationship : Option Relationship) (a b : String) :
    Except Rejection PlannedJoin := do
  let some r := relationship.filter Relationship.enabled | .error (.join (.kindMissing a b))
  if !r.connects a b then
    .error (.join (.entitiesMismatch a b r.leftEntity r.rightEntity))
  let some kind := r.kind | .error (.join (.kindMissing a b))
  if !kind.projectsBoth then
    .error (.join (.kindUnusable r.leftEntity r.rightEntity))
  if (c.joinRule? r.leftEntity r.rightEntity).any fun rule => !rule.supports kind then
    .error (.join (.kindUnsupported kind r.leftEntity r.rightEntity))
  let pairs := completePairs r.pairs
  if pairs.isEmpty then
    .error (.join (.mappingIncomplete r.leftEntity r.rightEntity))
  c.checkPairs r.leftEntity r.rightEntity pairs
  return { leftEntity := r.leftEntity, rightEntity := r.rightEntity, kind, pairs }

/-- What a relationship does to a query over a single entity: if it keeps only rows that have a
match, it becomes a join with the entity on its left, and any other relationship is ignored.
Conditions that it does not bring come from the catalog's rule; without any it is ignored with a
warning. -/
def resolveSemiJoin (relationship : Option Relationship) (entity : String) :
    Except Rejection (Option PlannedJoin × List String) := do
  let some given := relationship | return (none, [])
  if !given.enabled || given.kind ≠ some .semi || !given.touches entity then return (none, [])
  let r := if given.leftEntity = entity then given else given.reversed
  if !c.hasEntity r.rightEntity then .error (.spec (.unknownEntity r.rightEntity))
  let registered := ((c.joinRule? r.leftEntity r.rightEntity).map JoinRule.pairs).getD []
  let pairs := completePairs (if r.pairs.isEmpty then registered else r.pairs)
  if pairs.isEmpty then
    return (none, ["exists relationship between '" ++ r.leftEntity ++ "' and '" ++ r.rightEntity ++
      "' ignored: no complete field pair"])
  c.checkPairs r.leftEntity r.rightEntity pairs
  return (some { leftEntity := r.leftEntity, rightEntity := r.rightEntity, kind := .semi, pairs },
    [])

/-- The entity to read from, the join, and warnings about it. -/
def resolveEntities (relationship : Option Relationship) :
    List String → Except Rejection (String × Option PlannedJoin × List String)
  | [] => .error (.spec .emptyProjection)
  | [entity] => do
    let (join, warnings) ← c.resolveSemiJoin relationship entity
    return (entity, join, warnings)
  | [a, b] => do
    let join ← c.resolveJoin relationship a b
    return (join.leftEntity, some join, [])
  | entities => .error (.spec (.tooManyEntities entities.length))

end Catalog

/-- The warning that goes with a limit above the maximum. -/
def limitWarnings (limit maxLimit : UInt64) : List String :=
  if maxLimit < limit then
    ["limit " ++ toString limit.toNat ++ " exceeds the maximum of " ++ toString maxLimit.toNat ++
      "; at most " ++ toString maxLimit.toNat ++ " rows are returned"]
  else []

/-- The plan for a specification, whose limit is lowered to the maximum. -/
def Spec.resolve (spec : Spec) (c : Catalog) (maxLimit : UInt64) : Except Rejection Plan := do
  if spec.limit = 0 then .error (.spec (.invalidLimit spec.limit))
  if spec.axes.isEmpty && spec.measures.isEmpty then .error (.spec .emptyProjection)
  checkKeys [] spec.keys
  c.checkEntities spec.entities
  let dimensions ← spec.dimensions.mapM c.resolveAxis
  let columnDimensions ← spec.columnDimensions.mapM c.resolveAxis
  let measures ← spec.measures.mapM c.resolveMeasure
  let filters ← spec.filters.mapM c.resolveFilter
  let sorts ← spec.sorts.mapM (Catalog.resolveSort spec.keys)
  let referencedEntities := spec.referencedEntities
  let (anchor, join, warnings) ← c.resolveEntities spec.relationship referencedEntities
  return {
    dimensions, columnDimensions, measures, filters, sorts, anchor, join, referencedEntities
    limit := min spec.limit maxLimit
    warnings := warnings ++ limitWarnings spec.limit maxLimit }

end Crosstab
