import Crosstab.Sql.Bindings
import Crosstab.Sql.Dialect
import Crosstab.Sql.Scan
import Crosstab.Table.Row
import Crosstab.Worker.Fault

/-!
Stores: whatever runs statements. A store has a state of its own, on which its answers may depend.
-/

namespace Crosstab

open Crosstab.Sql

inductive StoreFault where
  | acquireTimeout (limit : Duration)
  | queryTimeout (limit : Duration)
  | closed
  | database (reason : String)
  | worker (fault : WorkerFault)
  | task (reason : String)
  /-- A row does not fit the columns. -/
  | shape (fault : ShapeFault)
deriving DecidableEq

def StoreFault.message : StoreFault → String
  | .acquireTimeout limit => "no connection became free within " ++ limit.display
  | .queryTimeout limit => "query did not finish within " ++ limit.display ++ " and was interrupted"
  | .closed => "connection pool is closed"
  | .database reason => "sqlite: " ++ reason
  | .worker fault => fault.message
  | .task reason => "blocking task failed: " ++ reason
  | .shape fault => fault.message

structure Reply where
  set : RowSet
  elapsedMillis : Nat := 0

/-- A store with states `σ`. -/
structure Store (σ : Type) where
  dialect : Dialect
  /-- Runs a statement with the values of its placeholders. -/
  fetch : String → List Value → σ → Except StoreFault Reply × σ

/-- The store that also keeps a list of what it was asked. -/
def Store.recorded {σ : Type} (store : Store σ) : Store (List (String × List Value) × σ) where
  dialect := store.dialect
  fetch sql values := fun (asked, state) =>
    let (answer, state) := store.fetch sql values state
    (answer, asked ++ [(sql, values)], state)

/-- The word before the first table, from its last character to its first. -/
def wordBeforeTable : List Char := " MORF".toList

/-- The table after the first `FROM` of a statement, with its schema if it has one. -/
def firstTable? : (before : List Char) → List Lexeme → Option String
  | before, .plain c :: rest => firstTable? (c :: before) rest
  | before, .name schema :: .plain '.' :: .name table :: rest =>
    if wordBeforeTable.isPrefixOf before then some (String.ofList (schema ++ '.' :: table))
    else firstTable? [] rest
  | before, .name table :: rest =>
    if wordBeforeTable.isPrefixOf before then some (String.ofList table) else firstTable? [] rest
  | _, .text _ :: rest => firstTable? [] rest
  | _, [] => none

def missingTable (sql : String) : StoreFault :=
  .database ("no such table: " ++ (((scan sql).bind (firstTable? [])).getD ""))

/-- The store over a database without tables. -/
def Store.empty (σ : Type) : Store σ where
  dialect := .sqlite
  fetch sql _ state := (.error (missingTable sql), state)

end Crosstab
