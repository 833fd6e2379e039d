import Crosstab.Duration
import Crosstab.Store
import Crosstab.Worker.Peer

/-!
Sessions: a client and its worker together, with requests run from beginning to end. Time passes
only where nothing else can happen, so a request expires when its worker has nothing more to say.
-/

namespace Crosstab

open Crosstab.Sql

/-- A client and its worker. -/
structure Session where
  client : Client := {}
  peer : Peer := {}
  /-- The number of requests so far. -/
  count : Nat := 0

/-- Where requests of a store go, and how long they may take. -/
structure Route where
  dialect : Dialect
  connection : String
  timeout : Duration := .ofSeconds 30

namespace Session

/-- The id of a request, in the form of an identifier of 128 bits. -/
def idOf (n : Nat) : String :=
  "00000000-0000-4000-8000-" ++
    String.ofList ((Nat.toDigits 16 (Nat.pow 16 12 + n % Nat.pow 16 12)).drop 1)

/-- The session after an event; it stays as it is if the event cannot happen. -/
def after (s : Session) (event : Event) : Session :=
  { s with client := (s.client.step event).getD s.client }

def afterAll (s : Session) (events : List Event) : Session := events.foldl after s

/-- The system's reason for refusing to write to a worker that does not read. -/
def brokenPipe : String := "Broken pipe (os error 32)"

/-- A request registered and written, as far as the worker still reads, and what has been
written. -/
def send (s : Session) (r : Request) : Session × List Request :=
  let s := { s with count := s.count + 1 }.after (.register r.id)
  if s.peer.reads then (s.after (.written r.id), [r])
  else ((s.after (.writeFailed r.id brokenPipe)).after (.leave r.id), [])

/-- The worker reads what has been written to it, and does what it does about each request. -/
def answer (s : Session) (written : List Request) : Session :=
  written.foldl (fun s r =>
    let (peer, events) := s.peer.receive r
    ({ s with peer }).afterAll events) s

/-- A request at its end: it takes what it has been handed, or expires. -/
def settle (s : Session) (id : String) : Session :=
  (s.after (.collect id)).afterAll [.expire id, .leave id]

/-- What a request has come to. -/
def result (s : Session) (limit : Duration) (id : String) : Except WorkerFault RowSet :=
  ((s.client.outcome? id).getD .expired).rows limit

/-- The request for a statement. -/
def request (s : Session) (route : Route) (sql : String) (values : List Value) : Request where
  id := idOf s.count
  dialect := route.dialect
  connection := route.connection
  sql := sql
  values := values

/-- A statement run by itself. -/
def fetch (s : Session) (route : Route) (sql : String) (values : List Value) :
    Except WorkerFault RowSet × Session :=
  let r := s.request route sql values
  let (s, written) := s.send r
  let s := (s.answer written).settle r.id
  (s.result route.timeout r.id, s)

/-- What a store makes of a worker's answer. -/
def stored (answer : Except WorkerFault RowSet) : Except StoreFault RowSet :=
  answer.mapError .worker

/-- Whether a statement that came to this kept the next one waiting for as long as that may wait. -/
def keepsWaiting (pool : Pool) : Except WorkerFault RowSet → Bool
  | .error (.timeout limit) => pool.acquireTimeout.millis ≤ limit.millis
  | _ => false

/-- Two statements started together. If only one may run at once, the other waits for it, and gives
up if the first keeps it waiting for too long; a pool without room still lets one run. -/
def fetchBoth (s : Session) (route : Route) (pool : Pool) (first second : String) :
    (Except StoreFault RowSet × Except StoreFault RowSet) × Session :=
  if 2 ≤ pool.maxOpen then
    let a := s.request route first []
    let (s, fromFirst) := s.send a
    let b := s.request route second []
    let (s, fromSecond) := s.send b
    let s := (s.answer (fromFirst ++ fromSecond)).settle a.id |>.settle b.id
    ((stored (s.result route.timeout a.id), stored (s.result route.timeout b.id)), s)
  else
    let (one, s) := s.fetch route first []
    if keepsWaiting pool one then ((stored one, .error (.acquireTimeout pool.acquireTimeout)), s)
    else
      let (two, s) := s.fetch route second []
      ((stored one, stored two), s)

end Session

/-- The store behind a worker. -/
def Store.worker (route : Route) : Store Session where
  dialect := route.dialect
  fetch sql values s :=
    let (answer, s) := s.fetch route sql values
    ((Session.stored answer).map fun set => { set }, s)

end Crosstab
