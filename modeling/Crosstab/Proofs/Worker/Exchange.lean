import Crosstab.Proofs.Keyed
import Crosstab.Worker.Client

/-!
What a single request sees of a client. An event is the business of one request, or it is something
read, which may be handed to requests; a request notices its own events and what is handed to it,
and nothing else. Whether its id is pending follows from where it stands.
-/

namespace Crosstab

/-- The request that an event is the business of. -/
def Event.subject? : Event → Option String
  | .register id | .written id | .writeFailed id _ | .collect id | .expire id | .leave id => some id
  | .line _ | .outputEnd => none

/-- What an event has for the request with an id: a response that bears it, or the end of the
output. -/
def Event.delivery? (id : String) : Event → Option Delivery
  | .line text => ((Response.ofText? text).filter fun r => r.id = id).map .response
  | .outputEnd => some .ended
  | _ => none

/-- Whether something may still be handed to a request. -/
def Exchange.isOpen : Exchange → Bool
  | ⟨.returned _, _⟩ => false
  | ⟨_, delivery⟩ => delivery.isNone

/-- How an event changes what is known of the request with an id. -/
inductive Exchange.Steps (id : String) : Event → Option Exchange → Option Exchange → Prop
  | register : Steps id (.register id) none (some {})
  | written {d : Option Delivery} :
      Steps id (.written id) (some ⟨.writing, d⟩) (some ⟨.waiting, d⟩)
  | writeFailed {reason : String} {d : Option Delivery} :
      Steps id (.writeFailed id reason) (some ⟨.writing, d⟩)
        (some ⟨.leaving (.writeFailed reason), d⟩)
  | collect {d : Delivery} :
      Steps id (.collect id) (some ⟨.waiting, some d⟩) (some ⟨.returned (.delivered d), none⟩)
  | expire : Steps id (.expire id) (some ⟨.waiting, none⟩) (some ⟨.leaving .expired, none⟩)
  | leave {outcome : Outcome} {d : Option Delivery} :
      Steps id (.leave id) (some ⟨.leaving outcome, d⟩) (some ⟨.returned outcome, d⟩)
  | handed {a : Event} {d : Delivery} {e : Exchange} (hDelivery : a.delivery? id = some d)
      (hOpen : e.isOpen) : Steps id a (some e) (some { e with delivery := some d })
  | unmoved {a : Event} {x : Option Exchange} (hOther : a.subject? ≠ some id)
      (hNothing : a.delivery? id = none ∨ ∀ e, x = some e → ¬e.isOpen) : Steps id a x x

/-- What has been handed something waits for nothing more. -/
theorem Exchange.isOpen_of_delivery {phase : Phase} {d : Delivery} :
    Exchange.isOpen ⟨phase, some d⟩ = false := by
  cases phase <;> rfl

/-- What is the business of a request is nothing read. -/
theorem Event.delivery?_of_subject? {a : Event} {id key : String} (h : a.subject? = some key) :
    a.delivery? id = none := by
  cases a <;> first | rfl | cases h

/-- A line that holds no response is for nobody. -/
theorem Event.delivery?_garbage {text : String} (h : Response.ofText? text = none) (id : String) :
    (Event.line text).delivery? id = none := by
  rw [delivery?, h]
  rfl

/-- A response is for the request whose id it bears. -/
theorem Event.delivery?_response {text : String} {r : Response} (h : Response.ofText? text = some r)
    (id : String) :
    (Event.line text).delivery? id = if id = r.id then some (.response r) else none := by
  rw [delivery?, h, Option.filter_some]
  by_cases hId : id = r.id
  · simp [hId]
  · simp [hId, Ne.symm hId]

namespace Client

variable {c c' : Client} {id key : String} {e e' : Exchange} {d : Delivery} {a : Event}

/-- What is handed to one request changes no other. -/
theorem lookup_handOver (exchanges : List (String × Exchange)) :
    (handOver exchanges key d).lookup id = if id = key then
      (exchanges.lookup id).map fun e => { e with delivery := some d }
    else exchanges.lookup id := by
  induction exchanges with
  | nil => simp [handOver]
  | cons pair rest ih =>
      obtain ⟨first, e⟩ := pair
      rw [handOver] at ih
      rw [handOver, List.map_cons]
      by_cases hId : id = first
      · subst hId
        by_cases hKey : id = key <;> simp [hKey]
      · have hSkip : (id == first) = false := beq_eq_false_iff_ne.mpr hId
        have hRest (e : Exchange) (es : List (String × Exchange)) :
            ((first, e) :: es).lookup id = es.lookup id := by rw [List.lookup_cons, hSkip]
        rw [hRest, ← ih]
        dsimp only
        split <;> rw [hRest]

/-- The ids that are pending are those of the requests that something may still be handed to. -/
structure Consistent (c : Client) : Prop where
  nodup : c.pending.Nodup
  mem_pending : ∀ id, id ∈ c.pending ↔ ∃ e, c.exchanges.lookup id = some e ∧ e.isOpen

/-- In the beginning nobody waits. -/
theorem consistent_initial : ({} : Client).Consistent where
  nodup := List.nodup_nil
  mem_pending id := by simp

/-- A client that differs in one request is consistent if the id of that request is pending just as
long as it is open; no other request notices. -/
theorem Consistent.moved (hc : c.Consistent) (hSubject : a.subject? = some key)
    (hLookup : ∀ id, c'.exchanges.lookup id = if id = key then some e' else c.exchanges.lookup id)
    (hNodup : c'.pending.Nodup)
    (hMem : ∀ id, id ∈ c'.pending ↔ if id = key then e'.isOpen else id ∈ c.pending)
    (hStep : Exchange.Steps key a (c.exchanges.lookup key) (some e')) :
    c'.Consistent ∧ ∀ id, Exchange.Steps id a (c.exchanges.lookup id) (c'.exchanges.lookup id) := by
  constructor
  · refine ⟨hNodup, ?_⟩
    intro id
    rw [hMem, hLookup]
    by_cases hId : id = key
    · simp [hId]
    · simp [hId, hc.mem_pending]
  · intro id
    rw [hLookup]
    by_cases hId : id = key
    · simpa [hId] using hStep
    · rw [if_neg hId]
      refine .unmoved ?_ (.inl (Event.delivery?_of_subject? hSubject))
      rw [hSubject]
      exact fun hSame => hId (Option.some.inj hSame).symm

/-- What is read is handed to the pending requests that it is for, and these are pending no more. -/
theorem Consistent.handed (hc : c.Consistent) (hSubject : a.subject? = none)
    (hLookup : ∀ id, c'.exchanges.lookup id = match a.delivery? id with
      | some d => if id ∈ c.pending then
          (c.exchanges.lookup id).map fun e => { e with delivery := some d }
        else c.exchanges.lookup id
      | none => c.exchanges.lookup id)
    (hNodup : c'.pending.Nodup)
    (hMem : ∀ id, id ∈ c'.pending ↔ id ∈ c.pending ∧ a.delivery? id = none) :
    c'.Consistent ∧ ∀ id, Exchange.Steps id a (c.exchanges.lookup id) (c'.exchanges.lookup id) := by
  have hOther (id : String) : a.subject? ≠ some id := by simp [hSubject]
  constructor
  · refine ⟨hNodup, ?_⟩
    intro id
    rw [hMem, hLookup]
    cases a.delivery? id with
    | none => simp [hc.mem_pending]
    | some d =>
        by_cases hPending : id ∈ c.pending
        · simp [hPending, Exchange.isOpen_of_delivery]
        · simpa [hPending] using (hc.mem_pending id).not.mp hPending
  · intro id
    rw [hLookup]
    cases hDelivery : a.delivery? id with
    | none => exact .unmoved (hOther id) (.inl hDelivery)
    | some d =>
        by_cases hPending : id ∈ c.pending
        · obtain ⟨e, hFound, hOpen⟩ := (hc.mem_pending id).mp hPending
          simpa [hPending, hFound] using Exchange.Steps.handed hDelivery hOpen
        · simp only [hPending, if_false]
          exact .unmoved (hOther id) (.inr fun e hFound hOpen =>
            hPending ((hc.mem_pending id).mpr ⟨e, hFound, hOpen⟩))

theorem lookup_withExchange : (c.withExchange key e').exchanges.lookup id =
    if id = key then some e' else c.exchanges.lookup id := by
  rw [withExchange, Keyed.lookup_put]
  simp

/-- A request that was found may take another state, as long as it stays open or stays closed. -/
theorem Consistent.withExchange (hc : c.Consistent) (hSubject : a.subject? = some key)
    (hFound : c.exchanges.lookup key = some e) (hOpen : e.isOpen = e'.isOpen)
    (hStep : Exchange.Steps key a (some e) (some e')) : (c.withExchange key e').Consistent ∧
      ∀ id, Exchange.Steps id a (c.exchanges.lookup id)
        ((c.withExchange key e').exchanges.lookup id) := by
  refine hc.moved hSubject (fun id => lookup_withExchange) hc.nodup (fun id => ?_) (hFound ▸ hStep)
  show id ∈ c.pending ↔ _
  by_cases hId : id = key
  · simp [hId, hc.mem_pending, hFound, hOpen]
  · simp [hId]

/-- Where the output ends, everyone who waits is told. -/
theorem lookup_drain : c.drain.exchanges.lookup id = if id ∈ c.pending then
    (c.exchanges.lookup id).map fun e => { e with delivery := some .ended }
    else c.exchanges.lookup id := by
  have hAll (ids : List String) (exchanges : List (String × Exchange)) :
      (ids.foldl (fun es id => handOver es id .ended) exchanges).lookup id = if id ∈ ids then
        (exchanges.lookup id).map fun e => { e with delivery := some .ended }
        else exchanges.lookup id := by
    induction ids generalizing exchanges with
    | nil => rfl
    | cons first ids ih =>
        rw [List.foldl_cons, ih, lookup_handOver]
        by_cases hFirst : id = first
        · by_cases hAgain : id ∈ ids <;> simp [hFirst, Function.comp_def]
        · simp [hFirst]
  exact hAll c.pending c.exchanges

/-- What is for no pending request goes unheard. -/
theorem Consistent.unheard (hc : c.Consistent) (hSubject : a.subject? = none)
    (hNothing : ∀ id ∈ c.pending, a.delivery? id = none) (id : String) :
    Exchange.Steps id a (c.exchanges.lookup id) (c.exchanges.lookup id) := by
  refine .unmoved (by simp [hSubject]) ?_
  by_cases hPending : id ∈ c.pending
  · exact .inl (hNothing id hPending)
  · exact .inr fun e hFound hOpen => hPending ((hc.mem_pending id).mpr ⟨e, hFound, hOpen⟩)

/-- A line that nobody waits for changes nothing. -/
theorem readLine_eq_self {text : String}
    (h : ∀ r, Response.ofText? text = some r → r.id ∉ c.pending) : c.readLine text = c := by
  unfold readLine
  split
  next => rfl
  next r hResponse => rw [if_neg (by simpa using h r hResponse)]

/-- A line is handed to the pending request that it is for, if there is one. -/
theorem Consistent.readLine (hc : c.Consistent) (text : String) : (c.readLine text).Consistent ∧
    ∀ id, Exchange.Steps id (.line text) (c.exchanges.lookup id)
      ((c.readLine text).exchanges.lookup id) := by
  by_cases hStray : ∀ r, Response.ofText? text = some r → r.id ∉ c.pending
  · rw [readLine_eq_self hStray]
    refine ⟨hc, hc.unheard rfl fun id hPending => ?_⟩
    cases hResponse : Response.ofText? text with
    | none => exact Event.delivery?_garbage hResponse id
    | some r =>
        have hOther : id ≠ r.id := fun hSame => hStray r hResponse (hSame ▸ hPending)
        rw [Event.delivery?_response hResponse, if_neg hOther]
  · push Not at hStray
    obtain ⟨r, hResponse, hPending⟩ := hStray
    have hOwn := Event.delivery?_response hResponse
    have hRead : c.readLine text = { c with
        exchanges := handOver c.exchanges r.id (.response r),
        pending := c.pending.erase r.id } := by
      simp [Client.readLine, hResponse, hPending]
    rw [hRead]
    refine hc.handed rfl (fun id => ?_) (hc.nodup.erase r.id) (fun id => ?_)
    · rw [hOwn]
      show (handOver c.exchanges r.id (.response r)).lookup id = _
      rw [lookup_handOver]
      by_cases hId : id = r.id <;> simp [hId, hPending]
    · rw [hc.nodup.mem_erase_iff, hOwn]
      by_cases hId : id = r.id <;> simp [hId]

/-- An event keeps a client consistent, and each request sees of it what is its own. -/
theorem step_steps (hc : c.Consistent) (h : c.step a = some c') :
    c'.Consistent ∧ ∀ id, Exchange.Steps id a (c.exchanges.lookup id) (c'.exchanges.lookup id) := by
  cases a with
  | register key =>
      simp only [step] at h
      split at h <;> cases h
      next hNone =>
        have hNew : key ∉ c.pending := by simp [hc.mem_pending, hNone]
        have hStep : Exchange.Steps key (.register key) (c.exchanges.lookup key) (some {}) :=
          hNone ▸ .register
        refine hc.moved rfl (fun id => ?_) ?_ (fun id => ?_) hStep
        · rw [List.lookup_append]
          by_cases hId : id = key
          · simp [hId, hNone]
          · simp [hId, List.lookup_cons, beq_eq_false_iff_ne.mpr hId]
        · exact List.nodup_append'.mpr ⟨hc.nodup, List.nodup_singleton key, by simpa using hNew⟩
        · by_cases hId : id = key
          · simp [hId, Exchange.isOpen]
          · simp [hId]
  | written key =>
      simp only [step] at h
      split at h <;> cases h
      next hFound => exact hc.withExchange rfl hFound rfl .written
  | writeFailed key reason =>
      simp only [step] at h
      split at h <;> cases h
      next hFound => exact hc.withExchange rfl hFound rfl .writeFailed
  | line text =>
      simp only [step] at h
      split at h <;> cases h
      exact hc.readLine text
  | outputEnd =>
      simp only [step] at h
      split at h <;> cases h
      exact hc.handed rfl (fun id => lookup_drain) List.nodup_nil
        (fun id => by simp [drain, Event.delivery?])
  | collect key =>
      simp only [step] at h
      split at h <;> cases h
      next d hFound => exact hc.withExchange rfl hFound rfl .collect
  | expire key =>
      simp only [step] at h
      split at h <;> cases h
      next hFound => exact hc.withExchange rfl hFound rfl .expire
  | leave key =>
      simp only [step] at h
      split at h <;> cases h
      next outcome delivery hFound =>
        refine hc.moved rfl (fun id => lookup_withExchange) (hc.nodup.erase key) (fun id => ?_)
          (hFound ▸ .leave)
        rw [hc.nodup.mem_erase_iff]
        by_cases hId : id = key
        · simp [hId, Exchange.isOpen]
        · simp [hId]

end Client

end Crosstab
