import Crosstab.Json.Printer
import Crosstab.Worker.Client

/-!
A worker that follows a script: what it does about each request is settled beforehand. It shows how
a client behaves without a database.
-/

namespace Crosstab

/-- One action of a scripted worker. -/
inductive PeerAction where
  /-- Writes an object with the id of the request, unless the object has an id of its own. -/
  | reply (fields : List (String × Json))
  /-- Writes a text and ends the line. -/
  | raw (text : String)
  /-- Stops reading requests. -/
  | closeInput
  | exit

/-- A scripted worker. -/
structure Peer where
  /-- What is done about the requests to come, one after the other. -/
  scripts : List (List PeerAction) := []
  /-- Whether requests can still be written to it. -/
  reads : Bool := true
  /-- Whether its output is still open. -/
  writes : Bool := true
  /-- The requests that it has read. -/
  seen : List Request := []

namespace Peer

/-- The line that replies to a request. -/
def replyLine (id : String) (fields : List (String × Json)) : String :=
  Json.compact <| .object <|
    if (fields.lookup "id").isSome then fields else ("id", .text id) :: fields

/-- The worker after an action, and what its client sees of it. -/
def act (id : String) (p : Peer) : PeerAction → Peer × List Event
  | .reply fields => (p, if p.writes then [.line (replyLine id fields)] else [])
  | .raw text =>
    (p, if p.writes then (Text.pieces '\n' text.toList).map fun cs => .line (String.ofList cs)
        else [])
  | .closeInput => ({ p with reads := false }, [])
  | .exit => ({ p with reads := false, writes := false }, if p.writes then [.outputEnd] else [])

/-- The worker after actions in order, and what its client sees of them. -/
def actAll (id : String) (p : Peer) : List PeerAction → Peer × List Event
  | [] => (p, [])
  | action :: rest =>
    let (p, events) := p.act id action
    let (p, others) := p.actAll id rest
    (p, events ++ others)

/-- The worker after it has read a request. Without a script for it nothing happens. -/
def receive (p : Peer) (r : Request) : Peer × List Event :=
  if p.reads then
    let p' := { p with scripts := p.scripts.drop 1, seen := p.seen ++ [r] }
    p'.actAll r.id (p.scripts.headD [])
  else (p, [])

end Peer

end Crosstab
