import Crosstab.Column
import Crosstab.Join.Json
import Crosstab.Settings.Basic
import Crosstab.Toml.Reader

/-!
The written form of settings. The same reader serves JSON and TOML, which differ in a few
conventions only; settings are written back as JSON.
-/

namespace Crosstab

namespace PoolSettings

def ofDocument? (c : Convention) (d : Document) : Option PoolSettings := do
  let default : PoolSettings := {}
  let fields ← d.fields? c ["max_open_conns", "acquire_timeout", "query_timeout"]
  let maxOpen ← Document.optional? fields "max_open_conns" default.maxOpen (Document.word? 32)
  let acquireTimeout ←
    Document.optional? fields "acquire_timeout" default.acquireTimeout Document.text?
  let queryTimeout ← Document.optional? fields "query_timeout" default.queryTimeout Document.text?
  some { maxOpen, acquireTimeout, queryTimeout }

def toJson (p : PoolSettings) : Json :=
  .object [
    ("max_open_conns", .int p.maxOpen),
    ("acquire_timeout", .text p.acquireTimeout),
    ("query_timeout", .text p.queryTimeout)]

end PoolSettings

namespace StoreSettings

def ofDocument? (c : Convention) (d : Document) : Option StoreSettings := do
  let default : StoreSettings := {}
  let fields ← d.fields? c ["driver", "connection_string", "worker_path", "pool"]
  let driver ← Document.optional? fields "driver" default.driver Document.text?
  let connection ← Document.optional? fields "connection_string" default.connection Document.text?
  let workerPath ← Document.nullable? fields "worker_path" Document.text?
  let pool ← Document.optional? fields "pool" default.pool (PoolSettings.ofDocument? c)
  some { driver, connection, workerPath, pool }

def toJson (s : StoreSettings) : Json :=
  .object [
    ("driver", .text s.driver),
    ("connection_string", .text s.connection),
    ("worker_path", .ofText? s.workerPath),
    ("pool", s.pool.toJson)]

end StoreSettings

namespace Limits

def ofDocument? (c : Convention) (d : Document) : Option Limits := do
  let default : Limits := {}
  let fields ← d.fields? c ["max_limit", "pivot_value_cap", "pivot_source_limit"]
  let maxLimit ← Document.optional? fields "max_limit" default.maxLimit Document.word64?
  let valueCap ← Document.optional? fields "pivot_value_cap" default.valueCap (Document.word? 64)
  let sourceLimit ←
    Document.optional? fields "pivot_source_limit" default.sourceLimit Document.word64?
  some { maxLimit, valueCap, sourceLimit }

def toJson (l : Limits) : Json :=
  .object [
    ("max_limit", .int l.maxLimit.toNat),
    ("pivot_value_cap", .int l.valueCap),
    ("pivot_source_limit", .int l.sourceLimit.toNat)]

end Limits

namespace MappingSettings

def ofDocument? (c : Convention) (d : Document) : Option MappingSettings := do
  let fields ← d.fields? c ["schema", "tables", "fields"]
  let schema ← Document.nullable? fields "schema" Document.text?
  let tables ← Document.optional? fields "tables" [] (Document.entries? Document.text?)
  let columns ←
    Document.optional? fields "fields" [] (Document.entries? (Document.entries? Document.text?))
  some { schema, tables, fields := columns }

/-- Pairs in the order of their keys. -/
def sorted {α : Type} (pairs : List (String × α)) : List (String × α) :=
  pairs.mergeSort fun a b => a.1 ≤ b.1

def toJson (m : MappingSettings) : Json :=
  let names := fun (pairs : List (String × String)) =>
    Json.object ((sorted pairs).map fun (key, name) => (key, .text name))
  .object [
    ("schema", .ofText? m.schema),
    ("tables", names m.tables),
    ("fields", .object ((sorted m.fields).map fun (entity, columns) => (entity, names columns)))]

end MappingSettings

namespace ColumnSettings

def ofDocument? (c : Convention) (d : Document) : Option ColumnSettings := do
  let fields ← d.fields? c ["field", "label", "type", "aggregatable"]
  let field ← Document.required? fields "field" Document.text?
  let label ← Document.nullable? fields "label" Document.text?
  let kind ← Document.optional? fields "type" .text (Document.constant? c ValueKind.names)
  let aggregatable ← Document.nullable? fields "aggregatable" Document.bool?
  some { field, label, kind, aggregatable }

def toJson (s : ColumnSettings) : Json :=
  .object [
    ("field", .text s.field),
    ("label", .ofText? s.label),
    ("type", .text s.kind.name),
    ("aggregatable", (s.aggregatable.map Json.bool).getD .null)]

end ColumnSettings

namespace EntitySettings

def ofDocument? (c : Convention) (d : Document) : Option EntitySettings := do
  let fields ← d.fields? c ["id", "display_name", "columns"]
  let id ← Document.required? fields "id" Document.text?
  let displayName ← Document.nullable? fields "display_name" Document.text?
  let columns ←
    Document.optional? fields "columns" [] (Document.list? (ColumnSettings.ofDocument? c))
  some { id, displayName, columns }

def toJson (e : EntitySettings) : Json :=
  .object [
    ("id", .text e.id),
    ("display_name", .ofText? e.displayName),
    ("columns", .list (e.columns.map ColumnSettings.toJson))]

end EntitySettings

namespace JoinSettings

/-- A condition, both of whose fields have to be named. -/
def pairOfDocument? (c : Convention) (d : Document) : Option FieldPair := do
  let fields ← d.fields? c ["left", "right", "comparator"]
  let leftField ← Document.required? fields "left" Document.text?
  let rightField ← Document.required? fields "right" Document.text?
  let comparator ← Document.optional? fields "comparator" .eq (Comparator.ofDocument? c)
  some { leftField, rightField, comparator }

def pairToJson (pair : FieldPair) : Json :=
  .object [
    ("left", .text pair.leftField),
    ("right", .text pair.rightField),
    ("comparator", .text pair.comparator.symbol)]

def ofDocument? (c : Convention) (d : Document) : Option JoinSettings := do
  let fields ←
    d.fields? c ["source", "target", "on", "default_kind", "supported_kinds", "is_default"]
  let source ← Document.required? fields "source" Document.text?
  let target ← Document.required? fields "target" Document.text?
  let pairs ← Document.optional? fields "on" [] (Document.list? (pairOfDocument? c))
  let defaultKind ← Document.nullable? fields "default_kind" (JoinKind.ofDocument? c)
  let supportedKinds ←
    Document.nullable? fields "supported_kinds" (Document.list? (JoinKind.ofDocument? c))
  let isDefault ← Document.optional? fields "is_default" false Document.bool?
  some { source, target, pairs, defaultKind, supportedKinds, isDefault }

def toJson (j : JoinSettings) : Json :=
  .object [
    ("source", .text j.source),
    ("target", .text j.target),
    ("on", .list (j.pairs.map pairToJson)),
    ("default_kind", .ofText? (j.defaultKind.map JoinKind.name)),
    ("supported_kinds",
      (j.supportedKinds.map fun kinds => Json.texts (kinds.map JoinKind.name)).getD .null),
    ("is_default", .bool j.isDefault)]

end JoinSettings

namespace CatalogSettings

def ofDocument? (c : Convention) (d : Document) : Option CatalogSettings := do
  let fields ← d.fields? c ["entities", "joins"]
  let entities ←
    Document.optional? fields "entities" [] (Document.list? (EntitySettings.ofDocument? c))
  let joins ← Document.optional? fields "joins" [] (Document.list? (JoinSettings.ofDocument? c))
  some { entities, joins }

def toJson (s : CatalogSettings) : Json :=
  .object [
    ("entities", .list (s.entities.map EntitySettings.toJson)),
    ("joins", .list (s.joins.map JoinSettings.toJson))]

end CatalogSettings

namespace Settings

/-- The settings that a document describes. Every section may be left out. -/
def ofDocument? (c : Convention) (d : Document) : Option Settings := do
  let fields ← d.fields? c ["store", "query", "mapping", "catalog"]
  let store ← Document.optional? fields "store" {} (StoreSettings.ofDocument? c)
  let query ← Document.optional? fields "query" {} (Limits.ofDocument? c)
  let mapping ← Document.optional? fields "mapping" {} (MappingSettings.ofDocument? c)
  let catalog ← Document.optional? fields "catalog" {} (CatalogSettings.ofDocument? c)
  some { store, query, mapping, catalog }

def ofToml? (s : String) : Option Settings :=
  (Document.ofTomlText? s).bind (ofDocument? .toml)

def toJson (s : Settings) : Json :=
  .object [
    ("store", s.store.toJson),
    ("query", s.query.toJson),
    ("mapping", s.mapping.toJson),
    ("catalog", s.catalog.toJson)]

end Settings

end Crosstab
