import Crosstab.Engine.Failure
import Crosstab.Plan.Resolve
import Crosstab.Report
import Crosstab.Settings.Basic

/-!
Engines: from a specification to a report. A call loads the catalog, checks what it is asked, and
then runs one statement; a call that is refused before that leaves the store alone.
-/

namespace Crosstab

open Crosstab.Sql

/-- What a call works with, apart from the store. -/
structure Engine where
  source : Source
  names : Naming := {}
  limits : Limits := {}

/-- A value of a field, and the number of rows that have it. -/
structure DistinctValue where
  value : String
  count : UInt64
deriving DecidableEq

def DistinctValue.toJson (v : DistinctValue) : Json :=
  .object [("value", .text v.value), ("count", .int v.count.toNat)]

namespace DistinctValue

/-- The number of 64 bits that a double counts: its whole part, or the nearest bound. -/
def countOf (x : Float) : UInt64 := if 0 < x then x.toUInt64 else 0

def ofRow (row : Row) : DistinctValue where
  value :=
    match row.lookup "value" with
    | some (.text s) => s
    | some value => value.compact
    | none => ""
  count := countOf (Json.addend (row.lookup "count"))

end DistinctValue

/-- The number of values listed unless a caller asks for another one. -/
def defaultDistinctLimit : UInt64 := 50

namespace Engine

variable {σ : Type} (engine : Engine)

def catalog : Except Failure Catalog := (Catalog.load engine.source).mapError .catalog

def prepare (d : Dialect) (spec : Spec) : Except Failure (Plan × Statement) := do
  let catalog ← engine.catalog
  let plan ← (spec.resolve catalog engine.limits.maxLimit).mapError .rejected
  let statement ← (plan.compile engine.names d engine.limits.sourceLimit).mapError .compile
  return (plan, statement)

/-- The statement for the values of a field. -/
def prepareValues (d : Dialect) (entity field : String) (start : Option String) (limit : UInt64) :
    Except Failure Statement := do
  if limit = 0 then .error (.rejected (.spec (.invalidLimit limit)))
  let catalog ← engine.catalog
  if !catalog.hasEntity entity then .error (.rejected (.spec (.unknownEntity entity)))
  let some column := catalog.column? entity field
    | .error (.rejected (.spec (.unknownField entity field)))
  return .distinctValues column start (min limit engine.limits.maxLimit) engine.names d

def runStatement (store : Store σ) (s : Statement) (state : σ) :
    Except Failure (List Row × Nat) × σ :=
  let (answer, state) := store.fetch s.sql s.values state
  let rows := do
    let reply ← answer
    let rows ← (reply.set.keyed s.measureKeys).mapError .shape
    return (rows, reply.elapsedMillis)
  (rows.mapError .execute, state)

/-- The report on a specification. A call that does not fail may still come to no report, if there
is no room for it. -/
def execute (store : Store σ) (spec : Spec) (state : σ) : Except Failure (Option Report) × σ :=
  match engine.prepare store.dialect spec with
  | .error failure => (.error failure, state)
  | .ok (plan, s) =>
    let (rows, state) := runStatement store s state
    (rows.map fun (rows, elapsed) => plan.report? s rows elapsed engine.limits.valueCap, state)

/-- The most frequent values of a field, as far as they begin with `start`. -/
def distinctValues (store : Store σ) (entity field : String) (start : Option String)
    (limit : UInt64) (state : σ) : Except Failure (List DistinctValue) × σ :=
  match engine.prepareValues store.dialect entity field start limit with
  | .error failure => (.error failure, state)
  | .ok s =>
    let (rows, state) := runStatement store s state
    (rows.map fun (rows, _) => rows.map .ofRow, state)

end Engine

end Crosstab
