import Crosstab.Worker.Protocol

/-!
A client of a worker, with any number of requests under way at once. Callers and the reader of the
worker's output share the ids of the requests that still wait for an answer. The client is a state,
and every event that can happen to it is one step; in which order events happen is open.
-/

namespace Crosstab

/-- What the reader hands to a waiting request. -/
inductive Delivery where
  | response (r : Response)
  /-- The worker's output has ended. -/
  | ended

/-- How a request came to its end. -/
inductive Outcome where
  | delivered (d : Delivery)
  | writeFailed (reason : String)
  | expired

/-- Where a request stands. -/
inductive Phase where
  /-- Its id is registered, and it is being written. -/
  | writing
  | waiting
  /-- It has failed by itself, and its id is still to be removed. -/
  | leaving (outcome : Outcome)
  | returned (outcome : Outcome)

/-- A request under way, with what has been handed to it. -/
structure Exchange where
  phase : Phase := .writing
  delivery : Option Delivery := none

/-- A client. -/
structure Client where
  /-- All requests, by their ids. -/
  exchanges : List (String × Exchange) := []
  /-- The ids of the requests that the reader may still hand something to. -/
  pending : List String := []
  /-- Whether the reader still reads. -/
  reading : Bool := true

/-- What can happen to a client. -/
inductive Event where
  /-- A request registers its id. -/
  | register (id : String)
  /-- A request has been written. -/
  | written (id : String)
  /-- A request could not be written. -/
  | writeFailed (id reason : String)
  /-- The reader reads a line. -/
  | line (text : String)
  /-- The reader stops, at the end of the output or because it cannot be read. -/
  | outputEnd
  /-- A waiting request takes what it has been handed. -/
  | collect (id : String)
  /-- A waiting request has been handed nothing in time. -/
  | expire (id : String)
  /-- A request that has failed by itself removes its id. -/
  | leave (id : String)

namespace Client

/-- The client with another state of a request. -/
def withExchange (c : Client) (id : String) (e : Exchange) : Client :=
  { c with exchanges := Keyed.put id e c.exchanges }

/-- Something handed to a request. -/
def handOver (exchanges : List (String × Exchange)) (id : String) (d : Delivery) :
    List (String × Exchange) :=
  exchanges.map fun (key, e) => if key = id then (key, { e with delivery := some d }) else (key, e)

/-- A line read. A response is handed to the request with its id, if that one is pending; every
other line changes nothing. -/
def readLine (c : Client) (text : String) : Client :=
  match Response.ofText? text with
  | none => c
  | some r =>
    if c.pending.contains r.id then
      { c with
        exchanges := handOver c.exchanges r.id (.response r), pending := c.pending.erase r.id }
    else c

/-- The reader stopped. Every pending request is told so. -/
def drain (c : Client) : Client where
  exchanges := c.pending.foldl (fun es id => handOver es id .ended) c.exchanges
  pending := []
  reading := false

/-- The client after an event; none if the event cannot happen. -/
def step (c : Client) : Event → Option Client
  | .register id =>
    match c.exchanges.lookup id with
    | none => some { c with exchanges := c.exchanges ++ [(id, {})], pending := c.pending ++ [id] }
    | some _ => none
  | .written id =>
    match c.exchanges.lookup id with
    | some ⟨.writing, delivery⟩ => some (c.withExchange id ⟨.waiting, delivery⟩)
    | _ => none
  | .writeFailed id reason =>
    match c.exchanges.lookup id with
    | some ⟨.writing, delivery⟩ =>
      some (c.withExchange id ⟨.leaving (.writeFailed reason), delivery⟩)
    | _ => none
  | .line text => if c.reading then some (c.readLine text) else none
  | .outputEnd => if c.reading then some c.drain else none
  | .collect id =>
    match c.exchanges.lookup id with
    | some ⟨.waiting, some d⟩ => some (c.withExchange id ⟨.returned (.delivered d), none⟩)
    | _ => none
  | .expire id =>
    match c.exchanges.lookup id with
    | some ⟨.waiting, none⟩ => some (c.withExchange id ⟨.leaving .expired, none⟩)
    | _ => none
  | .leave id =>
    match c.exchanges.lookup id with
    | some ⟨.leaving outcome, delivery⟩ =>
      some { c.withExchange id ⟨.returned outcome, delivery⟩ with pending := c.pending.erase id }
    | _ => none

/-- The client after events in order; none if one of them cannot happen. -/
def run (c : Client) (events : List Event) : Option Client := events.foldlM step c

/-- How a request ended, if it has. -/
def outcome? (c : Client) (id : String) : Option Outcome :=
  match c.exchanges.lookup id with
  | some ⟨.returned outcome, _⟩ => some outcome
  | _ => none

/-- The number of requests that still wait for an answer. -/
def pendingCount (c : Client) : Nat := c.pending.length

end Client

namespace Outcome

/-- What a request comes to, given how long it was allowed to wait. -/
def rows (limit : Duration) : Outcome → Except WorkerFault RowSet
  | .delivered (.response r) => r.rows
  | .delivered .ended => .error .exited
  | .writeFailed reason => .error (.writeFailed reason)
  | .expired => .error (.timeout limit)

end Outcome

end Crosstab
