import Crosstab.Duration
import Crosstab.Settings.Basic
import Crosstab.Settings.Expansion

/-!
Using settings: reading the texts in them, and refusing values that make no sense.
-/

namespace Crosstab

open Crosstab.Sql Crosstab.Text

inductive SettingsFault where
  | fileNotFound (path : String)
  | unreadable (reason : String)
  | malformed (reason : String)
  | missingVariable (name : String)
  | invalidDuration (text : String)
  | unsupportedDriver (name : String)
  | invalid (reason : String)
deriving DecidableEq

def SettingsFault.message : SettingsFault → String
  | .fileNotFound path => "Config file not found: " ++ path
  | .unreadable reason => "Failed to read config file: " ++ reason
  | .malformed reason => "Failed to parse config file: " ++ reason
  | .missingVariable name => "Missing environment variable: " ++ name
  | .invalidDuration text => "Invalid duration format: " ++ text
  | .unsupportedDriver name => "Unsupported driver: " ++ name
  | .invalid reason => "Invalid configuration: " ++ reason

namespace Environment

def resolve (env : Environment) (s : String) : Except SettingsFault String :=
  (env.expand s).mapError .missingVariable

end Environment

def Duration.ofSetting (s : String) : Except SettingsFault Duration :=
  match Duration.ofText? s with
  | some d => .ok d
  | none => .error (.invalidDuration (trim s))

/-- The bounds of the store. At least one statement has to be able to run. -/
def PoolSettings.pool (p : PoolSettings) : Except SettingsFault Pool := do
  if p.maxOpen = 0 then .error (.invalid "store.pool.max_open_conns must be at least 1")
  let acquireTimeout ← Duration.ofSetting p.acquireTimeout
  let queryTimeout ← Duration.ofSetting p.queryTimeout
  return { maxOpen := p.maxOpen, acquireTimeout, queryTimeout }

/-- Whether statements in a dialect are run by a separate program. -/
def Sql.Dialect.usesWorker (d : Dialect) : Bool := d ≠ .sqlite

/-- The program that runs statements where the settings name none. -/
def defaultWorker : String := "tabula-worker"

/-- The same program in the working directory, where it is preferred. -/
def localWorker : String := "./" ++ defaultWorker

namespace StoreSettings

def dialect (s : StoreSettings) : Except SettingsFault Dialect :=
  match Dialect.ofName? (trim s.driver) with
  | some d => .ok d
  | none => .error (.unsupportedDriver s.driver)

/-- The path of the program that runs statements, given whether there is one in the working
directory. -/
def worker (s : StoreSettings) (env : Environment) (isLocal : Bool) : Except SettingsFault String :=
  match s.workerPath with
  | some path => env.resolve path
  | none => .ok (if isLocal then localWorker else defaultWorker)

def referencedNames (s : StoreSettings) : List String :=
  referencedVariables s.connection ++ (s.workerPath.map referencedVariables).getD []

end StoreSettings

/-- The limits, all of which have to be positive. -/
def Limits.checked (l : Limits) : Except SettingsFault Limits :=
  if l.maxLimit = 0 ∨ l.valueCap = 0 ∨ l.sourceLimit = 0 then
    .error (.invalid "query limits must be positive")
  else .ok l

end Crosstab
