import Crosstab.Proofs.Worker.Exchange

/-!
Where responses go. Events happen in any order and to any number of requests; still each request
returns once at most, with the first response that is read for it or the news that the output has
ended, if it does not fail by itself, and its id stays pending just as long as neither has happened.
-/

namespace Crosstab

/-- A way of returning for the request with an id. -/
def Event.returns (id : String) : Event → Bool
  | .collect key | .leave key => key = id
  | _ => false

/-- A request has been registered, and since then nothing has been read for it and it has not
left. -/
def Awaits (id : String) (events : List Event) : Prop :=
  ∃ before after, events = before ++ .register id :: after ∧
    ∀ a ∈ after, a.delivery? id = none ∧ a ≠ .leave id

/-- What a request has come to, if it has returned. -/
def Exchange.outcome? : Option Exchange → Option Outcome
  | some ⟨.returned outcome, _⟩ => some outcome
  | _ => none

/-- What has been handed to a request or returned by it. -/
def Exchange.Holds (e : Exchange) (d : Delivery) : Prop :=
  e.delivery = some d ∨ e.phase = .leaving (.delivered d) ∨ e.phase = .returned (.delivered d)

/-- What is known of the request with an id after events in order. -/
inductive Exchange.After (id : String) : List Event → Option Exchange → Prop
  | start : After id [] none
  | next {events : List Event} {a : Event} {x y : Option Exchange} (h : After id events x)
      (hStep : Steps id a x y) : After id (events ++ [a]) y

/-- A response comes from a line that holds it. -/
theorem Event.delivery?_eq_response {a : Event} {id : String} {r : Response}
    (h : a.delivery? id = some (.response r)) :
    ∃ text, a = .line text ∧ Response.ofText? text = some r ∧ r.id = id := by
  cases a with
  | line text =>
      obtain ⟨other, hFilter, hSame⟩ := Option.map_eq_some_iff.mp h
      cases hSame
      obtain ⟨hResponse, hId⟩ := Option.filter_eq_some_iff.mp hFilter
      exact ⟨text, rfl, hResponse, by simpa using hId⟩
  | _ => cases h

/-- A delivery does not end its request yet. -/
theorem Event.returns_of_delivery? {a : Event} {id : String} {d : Delivery}
    (h : a.delivery? id = some d) : a.returns id = false := by
  cases a <;> first | rfl | cases h

/-- A request returns by its own events only. -/
theorem Event.returns_of_subject? {a : Event} {id : String} (h : a.subject? ≠ some id) :
    a.returns id = false := by
  cases a <;> simp_all [returns, subject?]

/-- A request awaits a response after one more event. -/
theorem awaits_append_singleton {id : String} {events : List Event} {a : Event} :
    Awaits id (events ++ [a]) ↔
      a = .register id ∨ (Awaits id events ∧ a.delivery? id = none ∧ a ≠ .leave id) := by
  constructor
  · rintro ⟨before, after, hEvents, hQuiet⟩
    rcases List.eq_nil_or_concat' after with rfl | ⟨front, last, rfl⟩
    · exact .inl (List.singleton_inj.mp (List.append_inj_right' hEvents rfl))
    · rw [← List.cons_append, ← List.append_assoc] at hEvents
      obtain ⟨rfl, hLast⟩ := List.append_inj' hEvents rfl
      obtain rfl := List.singleton_inj.mp hLast
      have hMem : a ∈ front ++ [a] := by simp
      obtain ⟨hNothing, hStays⟩ := hQuiet a hMem
      exact .inr ⟨⟨before, front, rfl, fun b hOld => hQuiet b (List.mem_append_left _ hOld)⟩,
        hNothing, hStays⟩
  · rintro (rfl | ⟨⟨before, after, rfl, hQuiet⟩, hNothing, hStays⟩)
    · exact ⟨events, [], rfl, by simp⟩
    · refine ⟨before, after ++ [a], by simp, ?_⟩
      intro b hMem
      rcases List.mem_append.mp hMem with hOld | hLast
      · exact hQuiet b hOld
      · obtain rfl := List.mem_singleton.mp hLast
        exact ⟨hNothing, hStays⟩

namespace Exchange

variable {id : String} {events : List Event} {a : Event} {x y : Option Exchange} {e : Exchange}
  {outcome : Outcome} {d : Delivery}

/-- A request has come to something if it has returned with it. -/
theorem outcome?_eq_some :
    outcome? x = some outcome ↔ ∃ held, x = some ⟨.returned outcome, held⟩ := by
  match x with
  | none => simp [outcome?]
  | some ⟨phase, held⟩ => cases phase <;> simp [outcome?]

/-- What a request has come to stays. -/
theorem Steps.outcome?_eq (h : Steps id a x y) (hOutcome : outcome? x = some outcome) :
    outcome? y = some outcome := by
  cases h with
  | unmoved => exact hOutcome
  | @handed _ _ e _ hOpen =>
      obtain ⟨phase, delivery⟩ := e
      cases phase <;> first | cases hOpen | cases hOutcome
  | _ => cases hOutcome

/-- A request that waits with something in its hands does nothing but return it. -/
theorem Steps.waiting_or (h : Steps id a x y)
    (hHolds : x = some ⟨.waiting, some d⟩ ∨ outcome? x = some (.delivered d)) :
    y = some ⟨.waiting, some d⟩ ∨ outcome? y = some (.delivered d) := by
  rcases hHolds with rfl | hOutcome
  · cases h with
    | collect => exact .inr rfl
    | unmoved => exact .inl rfl
    | handed _ hOpen => cases hOpen
  · exact .inr (h.outcome?_eq hOutcome)

/-- Something may be handed to a request just as long as it awaits something. -/
theorem After.isOpen_iff (h : After id events x) :
    (∃ e, x = some e ∧ e.isOpen) ↔ Awaits id events := by
  induction h with
  | start => simp [Awaits]
  | @next events a x y _ hStep ih =>
      rw [awaits_append_singleton, ← ih]
      cases hStep with
      | register => simp [isOpen]
      | @written d | @writeFailed _ d => cases d <;> simp [isOpen, Event.delivery?]
      | collect | leave => simp [isOpen]
      | expire => simp [isOpen, Event.delivery?]
      | handed hDelivery =>
          have hNew : a ≠ .register id := by
            rintro rfl
            cases hDelivery
          simp [isOpen_of_delivery, hDelivery, hNew]
      | unmoved hOther hNothing =>
          have hNew : a ≠ .register id := by
            rintro rfl
            exact hOther rfl
          have hStays : a ≠ .leave id := by
            rintro rfl
            exact hOther rfl
          simp only [hNew, hStays, ne_eq, not_false_eq_true, and_true, false_or]
          constructor
          · rintro ⟨e, hFound, hOpen⟩
            exact ⟨⟨e, hFound, hOpen⟩, hNothing.resolve_right fun hClosed => hClosed e hFound hOpen⟩
          · exact And.left

/-- What a request holds was read while it awaited something. -/
theorem After.holds (h : After id events (some e)) (hHolds : e.Holds d) :
    ∃ before a after, events = before ++ a :: after ∧ Awaits id before ∧
      a.delivery? id = some d := by
  generalize hFound : some e = x at h
  induction h generalizing e with
  | start => cases hFound
  | @next events a x y hBefore hStep ih =>
      -- What was held before was read before.
      have hOld {e' : Exchange} (hSome : some e' = x) (hSame : e'.Holds d) :
          ∃ before b after, events ++ [a] = before ++ b :: after ∧ Awaits id before ∧
            b.delivery? id = some d := by
        obtain ⟨before, b, after, rfl, hRest⟩ := ih hSame hSome
        exact ⟨before, b, after ++ [a], by simp, hRest⟩
      cases hStep with
      | register | expire =>
          cases hFound
          simp [Holds] at hHolds
      | written | writeFailed | collect | leave =>
          cases hFound
          exact hOld rfl (by simpa [Holds] using hHolds)
      | handed hDelivery hOpen =>
          cases hFound
          rcases hHolds with hNew | hEarlier
          · cases hNew
            exact ⟨events, a, [], rfl, hBefore.isOpen_iff.mp ⟨_, rfl, hOpen⟩, hDelivery⟩
          · exact hOld rfl (.inr hEarlier)
      | unmoved => exact hOld hFound hHolds

/-- A request returns once, when it comes to something. -/
theorem After.countP_returns (h : After id events x) :
    events.countP (Event.returns id) = if (outcome? x).isSome then 1 else 0 := by
  induction h with
  | start => rfl
  | @next events a x y _ hStep ih =>
      rw [List.countP_append, ih, List.countP_singleton]
      cases hStep with
      | register | written | writeFailed | expire => simp [outcome?, Event.returns]
      | collect | leave => simp [outcome?, Event.returns]
      | @handed _ d e hDelivery =>
          obtain ⟨phase, delivery⟩ := e
          rw [Event.returns_of_delivery? hDelivery]
          cases phase <;> rfl
      | unmoved hOther => simp [Event.returns_of_subject? hOther]

end Exchange

namespace Client

variable {c c' : Client} {events : List Event} {id : String}

theorem outcome?_eq : c.outcome? id = Exchange.outcome? (c.exchanges.lookup id) := rfl

/-- A run with one more event is a run and a step. -/
theorem run_append_singleton {a : Event} :
    c.run (events ++ [a]) = (c.run events).bind fun before => before.step a := by
  simp [run, List.foldlM_append]

/-- Whatever happens to a client, it stays consistent, and each request has seen what was its
own. -/
theorem run_after (h : run {} events = some c) :
    c.Consistent ∧ ∀ id, Exchange.After id events (c.exchanges.lookup id) := by
  induction events using List.reverseRecOn generalizing c with
  | nil =>
      cases h
      exact ⟨consistent_initial, fun id => .start⟩
  | append_singleton events a ih =>
      rw [run_append_singleton, Option.bind_eq_some_iff] at h
      obtain ⟨before, hBefore, hStep⟩ := h
      obtain ⟨hConsistent, hAfter⟩ := ih hBefore
      obtain ⟨hNext, hSteps⟩ := step_steps hConsistent hStep
      exact ⟨hNext, fun id => .next (hAfter id) (hSteps id)⟩

/-- What every event keeps of a request is kept by any number of events. -/
theorem Consistent.run_preserves {P : Option Exchange → Prop}
    (hP : ∀ a x y, Exchange.Steps id a x y → P x → P y) (hc : c.Consistent)
    (h : c.run events = some c') (hBefore : P (c.exchanges.lookup id)) :
    c'.Consistent ∧ P (c'.exchanges.lookup id) := by
  induction events generalizing c with
  | nil =>
      cases h
      exact ⟨hc, hBefore⟩
  | cons a events ih =>
      obtain ⟨next, hStep, hRest⟩ : ∃ next, c.step a = some next ∧ next.run events = some c' := by
        simpa [run, List.foldlM_cons, Option.bind_eq_some_iff] using h
      obtain ⟨hNext, hSteps⟩ := step_steps hc hStep
      exact ih hNext hRest (hP _ _ _ (hSteps id) hBefore)

/-- Whatever else happens, a request returns what it holds: it can do so as long as it has not, and
it returns nothing else. -/
def ReturnsOnly (c : Client) (id : String) (d : Delivery) : Prop :=
  ∀ events c', c.run events = some c' → c'.outcome? id = some (.delivered d) ∨
    ∃ next, c'.step (.collect id) = some next ∧ next.outcome? id = some (.delivered d)

/-- What routing promises of a client after events in order. -/
structure Routed (c : Client) (events : List Event) : Prop where
  once : ∀ id, events.countP (Event.returns id) = if (c.outcome? id).isSome then 1 else 0
  /-- What has returned stays as it is, and its id is gone for good. -/
  kept : ∀ id outcome more c', c.outcome? id = some outcome → c.run more = some c' →
    c'.outcome? id = some outcome ∧ id ∉ c'.pending
  /-- A response that is returned is the first one read for the request since its registration. -/
  own : ∀ id r, c.outcome? id = some (.delivered (.response r)) → r.id = id ∧
    ∃ before text after, events = before ++ .line text :: after ∧
      Response.ofText? text = some r ∧ Awaits id before
  response : ∀ id text r c', c.exchanges.lookup id = some ⟨.waiting, none⟩ →
    Response.ofText? text = some r → r.id = id → c.step (.line text) = some c' →
      c'.ReturnsOnly id (.response r)
  exited : ∀ id c', c.exchanges.lookup id = some ⟨.waiting, none⟩ → c.step .outputEnd = some c' →
    c'.ReturnsOnly id .ended ∧ ∀ limit, (Outcome.delivered .ended).rows limit = .error .exited
  pendingOnce : c.pending.Nodup
  pending : ∀ id, id ∈ c.pending ↔ Awaits id events
  /-- What is no response to a pending request, be it late, repeated or not understood, changes
  nothing. -/
  stray : ∀ text, (∀ r, Response.ofText? text = some r → r.id ∉ c.pending) → c.readLine text = c

/-- A request that waits and is handed something returns just that. -/
theorem Consistent.returnsOnly (hc : c.Consistent) {a : Event} {d : Delivery}
    (hWaiting : c.exchanges.lookup id = some ⟨.waiting, none⟩) (hDelivery : a.delivery? id = some d)
    (h : c.step a = some c') : c'.ReturnsOnly id d := by
  obtain ⟨hNext, hSteps⟩ := step_steps hc h
  have hHolds : c'.exchanges.lookup id = some ⟨.waiting, some d⟩ := by
    have hStep := hSteps id
    rw [hWaiting] at hStep
    generalize c'.exchanges.lookup id = y at hStep
    cases hStep with
    | expire => cases hDelivery
    | handed hOwn => rw [Option.some.inj (hOwn.symm.trans hDelivery)]
    | unmoved _ hNothing =>
        rcases hNothing with hNone | hClosed
        · cases hNone.symm.trans hDelivery
        · exact absurd rfl (hClosed _ rfl)
  intro events after hRun
  obtain ⟨-, hStill⟩ := hNext.run_preserves
    (fun _ _ _ hStep hBefore => Exchange.Steps.waiting_or hStep hBefore) hRun (.inl hHolds)
  rcases hStill with hWaits | hReturned
  · refine .inr ⟨after.withExchange id ⟨.returned (.delivered d), none⟩, by simp [step, hWaits], ?_⟩
    rw [outcome?_eq, lookup_withExchange, if_pos rfl]
    rfl
  · exact .inl hReturned

/-- Responses find their requests, in whatever order things happen. -/
theorem routed_run (h : run {} events = some c) : c.Routed events := by
  obtain ⟨hc, hAfter⟩ := run_after h
  constructor
  case once => exact fun id => (hAfter id).countP_returns
  case kept =>
    intro id outcome more after hOutcome hRun
    obtain ⟨hConsistent, hKept⟩ := hc.run_preserves
      (fun _ _ _ hStep hBefore => Exchange.Steps.outcome?_eq hStep hBefore) hRun hOutcome
    refine ⟨hKept, ?_⟩
    intro hPending
    obtain ⟨held, hReturned⟩ := Exchange.outcome?_eq_some.mp hKept
    obtain ⟨e, hFound, hOpen⟩ := (hConsistent.mem_pending id).mp hPending
    cases hReturned.symm.trans hFound
    cases hOpen
  case own =>
    intro id r hOutcome
    obtain ⟨held, hReturned⟩ := Exchange.outcome?_eq_some.mp hOutcome
    obtain ⟨before, a, after, hEvents, hAwaits, hDelivery⟩ :=
      (hReturned ▸ hAfter id).holds (.inr (.inr rfl))
    obtain ⟨text, rfl, hResponse, hId⟩ := Event.delivery?_eq_response hDelivery
    exact ⟨hId, before, text, after, hEvents, hResponse, hAwaits⟩
  case response =>
    intro id text r next hWaiting hResponse hId hStep
    refine hc.returnsOnly hWaiting ?_ hStep
    rw [Event.delivery?_response hResponse, if_pos hId.symm]
  case exited =>
    intro id next hWaiting hStep
    exact ⟨hc.returnsOnly hWaiting rfl hStep, fun limit => rfl⟩
  case pendingOnce => exact hc.nodup
  case pending => exact fun id => (hc.mem_pending id).trans (hAfter id).isOpen_iff
  case stray => exact fun text hStray => readLine_eq_self hStray

/-- Two requests under way at once. The second is answered twice, between lines that nobody waits
for, and the output ends before the first is answered. -/
def twoRequests : List Event :=
  [.register "a", .register "b", .written "b", .line "?", .line "[\"c\",true]", .written "a",
    .line "[\"b\",true]", .line "[\"b\",false]", .outputEnd, .collect "b", .collect "a"]

/-- The first answer counts, and the end of the output answers the request that still waits. -/
theorem routed_twoRequests : ∃ c r, run {} twoRequests = some c ∧ c.Routed twoRequests ∧
    c.pending = [] ∧ c.outcome? "a" = some (.delivered .ended) ∧
    c.outcome? "b" = some (.delivered (.response r)) ∧ r.success := by
  have hGarbage : Response.ofText? "?" = none := by
    have hNone : (Response.ofText? "?").isNone := by decide +kernel
    simpa using hNone
  obtain ⟨stray, hStray, hStrayId⟩ := Option.map_eq_some_iff.mp
    (show (Response.ofText? "[\"c\",true]").map Response.id = some "c" by decide +kernel)
  obtain ⟨r, hOwn, hOwnId⟩ := Option.map_eq_some_iff.mp
    (show (Response.ofText? "[\"b\",true]").map (fun r => (r.id, r.success)) = some ("b", true) by
      decide +kernel)
  obtain ⟨again, hAgain, hAgainId⟩ := Option.map_eq_some_iff.mp
    (show (Response.ofText? "[\"b\",false]").map Response.id = some "b" by decide +kernel)
  obtain ⟨hId, hSuccess⟩ : r.id = "b" ∧ r.success := by simpa using hOwnId
  have hRun : run {} twoRequests = some ⟨[
      ("a", ⟨.returned (.delivered .ended), none⟩),
      ("b", ⟨.returned (.delivered (.response r)), none⟩)], [], false⟩ := by
    simp [run, twoRequests, step, readLine, drain, hGarbage, hStray, hStrayId, hOwn, hId, hAgain,
      hAgainId, withExchange, Keyed.put, handOver, List.lookup_cons]
  exact ⟨_, r, hRun, routed_run hRun, rfl, rfl, rfl, hSuccess⟩

end Client

end Crosstab
