import Crosstab.Engine.Basic
import Crosstab.Settings.Resolve
import Crosstab.Worker.Session

/-!
Engines from settings. The first fault in the settings is reported, in the order in which they are
used; the limits come last, after the store has been opened.
-/

namespace Crosstab

open Crosstab.Sql

inductive SetupFault where
  | settings (fault : SettingsFault)
  | store (fault : StoreFault)
  | worker (fault : WorkerFault)
deriving DecidableEq

def SetupFault.message : SetupFault → String
  | .settings fault => fault.message
  | .store fault => "failed to open store: " ++ fault.message
  | .worker fault => "failed to start database worker: " ++ fault.message

/-- The ways to a store. Both give it with its first state. -/
structure Connector (σ : Type) where
  /-- Opens a database file. -/
  database : (path : String) → Pool → Except StoreFault (Store σ × σ)
  /-- Whether there is a worker in the working directory. -/
  hasLocalWorker : Bool
  /-- Starts a worker with arguments, and has it run the statements of a route. -/
  worker : (program : String) → (arguments : List String) → Route →
    Except WorkerFault (Store σ × σ)

structure Setup (σ : Type) where
  engine : Engine
  store : Store σ
  state : σ

namespace Settings

def engine (s : Settings) : Except SettingsFault Engine := do
  let limits ← s.query.checked
  return { source := s.catalog.registry.source, names := s.mapping.naming, limits }

def workerArguments (pool : Pool) : List String := ["-pool-max-open=" ++ toString pool.maxOpen]

def openStore {σ : Type} (s : Settings) (env : Environment) (connector : Connector σ) :
    Except SetupFault (Store σ × σ) := do
  let dialect ← s.store.dialect.mapError .settings
  let pool ← s.store.pool.pool.mapError .settings
  let connection ← (env.resolve s.store.connection).mapError .settings
  if dialect.usesWorker then
    let program ← (s.store.worker env connector.hasLocalWorker).mapError .settings
    let route : Route := { dialect, connection, timeout := pool.queryTimeout }
    (connector.worker program (workerArguments pool) route).mapError .worker
  else (connector.database connection pool).mapError .store

def setup {σ : Type} (s : Settings) (env : Environment) (connector : Connector σ) :
    Except SetupFault (Setup σ) := do
  let (store, state) ← s.openStore env connector
  let engine ← s.engine.mapError .settings
  return { engine, store, state }

end Settings

end Crosstab
