import Crosstab.Document.Decode
import Crosstab.Json.Reader
import Crosstab.Sql.Bindings
import Crosstab.Sql.Dialect
import Crosstab.Table.Row
import Crosstab.Worker.Fault

/-!
What is written to a worker and read from it: one JSON object to a line. Every request has an id of
its own, and the response to it bears the same id.
-/

namespace Crosstab

open Crosstab.Sql

/-- A request to run a statement. -/
structure Request where
  id : String
  dialect : Dialect
  connection : String
  sql : String
  values : List Value

namespace Request

/-- What the statement is run with. Without bound values there is no list of them. -/
def parameters (r : Request) : List (String × Json) :=
  [("driver", .text r.dialect.name), ("connection_string", .text r.connection),
    ("sql", .text r.sql)] ++
    if r.values.isEmpty then [] else [("args", .list (r.values.map Value.toJson))]

def toJson (r : Request) : Json :=
  .object [
    ("id", .text r.id), ("method", .text "query.execute"), ("params", .object r.parameters)]

end Request

/-- How a worker reports a fault. -/
structure ErrorReport where
  code : String
  message : String
deriving DecidableEq

def ErrorReport.ofDocument? (d : Document) : Option ErrorReport := do
  let fields ← d.fields? .json ["code", "message"]
  let code ← Document.required? fields "code" Document.text?
  let message ← Document.required? fields "message" Document.text?
  some { code, message }

/-- The report that stands for a missing one. -/
def ErrorReport.unknown : ErrorReport := ⟨"UNKNOWN", "Unknown error"⟩

/-- A response to a request. -/
structure Response where
  id : String
  success : Bool
  result : Option Json := none
  error : Option ErrorReport := none

namespace Response

def ofDocument? (d : Document) : Option Response := do
  let fields ← d.fields? .json ["id", "success", "result", "error"]
  let id ← Document.required? fields "id" Document.text?
  let success ← Document.required? fields "success" Document.bool?
  let result ← Document.nullable? fields "result" Document.toJson?
  let error ← Document.nullable? fields "error" ErrorReport.ofDocument?
  some { id, success, result, error }

/-- The response that a line holds, if it holds one. -/
def ofText? (line : String) : Option Response :=
  (Document.ofJsonText? line).bind ofDocument?

end Response

/-- The name of a column of an answer; its type does not matter. -/
def columnName? (d : Document) : Option String := do
  let fields ← d.fields? .json ["name", "data_type"]
  let name ← Document.required? fields "name" Document.text?
  let _ ← Document.optional? fields "data_type" "" Document.text?
  some name

/-- The columns and rows of an answer; the number of rows that it states does not matter. -/
def RowSet.ofDocument? (d : Document) : Option RowSet := do
  let fields ← d.fields? .json ["columns", "rows", "row_count"]
  let columns ← Document.required? fields "columns" (Document.list? columnName?)
  let rows ← Document.required? fields "rows" (Document.list? (Document.list? Document.toJson?))
  let _ ← Document.optional? fields "row_count" 0 Document.int64?
  some { columns, rows }

/-- What a response means: rows if it reports success, and otherwise the fault that it reports. -/
def Response.rows (r : Response) : Except WorkerFault RowSet :=
  if r.success then
    match RowSet.ofDocument? (Document.ofJson (r.result.getD .null)) with
    | some set => .ok set
    | none => .error (.unreadable "neither columns nor rows")
  else
    let report := r.error.getD .unknown
    .error (.ofCode report.code report.message)

end Crosstab
