import Crosstab.Engine.Basic
import Crosstab.Proofs.Plan.Sound
import Crosstab.Proofs.Statement.Compile
import Crosstab.Proofs.Table.Room

/-!
Calls of an engine. A call is refused before the store is asked anything, or it asks the store once;
what it answers follows from the catalog and from that one reply, so calls before it do not matter.
-/

namespace Crosstab

open Crosstab.Sql

variable {σ τ : Type}

inductive Call where
  | report (spec : Spec)
  | values (entity field : String) (start : Option String) (limit : UInt64)

/-- What a call that does not fail is answered with. A report that there is no room for is no
answer. -/
inductive Answer where
  | report (r : Option Report)
  | values (vs : List DistinctValue)

/-- What a reply comes to for a statement: its rows under the names of its columns, and the time
that it took. -/
def Statement.rowsOf (s : Statement) (reply : Except StoreFault Reply) :
    Except Failure (List Row × Nat) :=
  (do
    let reply ← reply
    let rows ← (reply.set.keyed s.measureKeys).mapError .shape
    return (rows, reply.elapsedMillis)).mapError .execute

namespace Engine

def answer (engine : Engine) (store : Store σ) (call : Call) (state : σ) :
    Except Failure Answer × σ :=
  match call with
  | .report spec =>
    let (r, state) := engine.execute store spec state
    (r.map .report, state)
  | .values entity field start limit =>
    let (vs, state) := engine.distinctValues store entity field start limit state
    (vs.map .values, state)

def Asks (engine : Engine) (d : Dialect) : Call → Statement → Prop
  | .report spec, s => ∃ plan, engine.prepare d spec = .ok (plan, s)
  | .values entity field start limit, s => ∃ c column, Catalog.load engine.source = .ok c ∧
      c.column? entity field = some column ∧
      s = .distinctValues column start (min limit engine.limits.maxLimit) engine.names d

/-- What a call comes to before the store is asked: its statement, and the answer that the rows
make. -/
def prepared (engine : Engine) (d : Dialect) :
    Call → Except Failure (Statement × (List Row × Nat → Answer))
  | .report spec => (engine.prepare d spec).map fun (plan, s) =>
      (s, fun (rows, elapsed) => .report (plan.report? s rows elapsed engine.limits.valueCap))
  | .values entity field start limit =>
    (engine.prepareValues d entity field start limit).map fun s =>
      (s, fun (rows, _) => .values (rows.map .ofRow))

end Engine

/-- A call that has been served: what the catalog's source replied, the state of the store before
the call, what the store was asked, and the answer. -/
structure Served (σ : Type) where
  source : Source
  call : Call
  before : σ
  asked : List (String × List Value)
  answer : Except Failure Answer

/-- What the store replied during a call. -/
def Served.replies (s : Served σ) (store : Store σ) : List (Except StoreFault Reply) :=
  s.asked.map fun asked => (store.fetch asked.1 asked.2 s.before).1

/-- Calls served one after the other. At each of them the catalog's source may reply differently. -/
def Engine.serve (engine : Engine) (store : Store σ) : List (Source × Call) → σ → List (Served σ)
  | [], _ => []
  | (source, call) :: rest, state =>
    let (answer, asked, next) :=
      ({ engine with source } : Engine).answer store.recorded call ([], state)
    ⟨source, call, state, asked, answer⟩ :: engine.serve store rest next

/-- A failure for which the store need not be asked. -/
def Failure.IsEarly (f : Failure) : Prop := f.isClientError ∨ f.stage? = some .catalog

/-- No statement has been made before an early failure. -/
theorem Failure.IsEarly.stage?_ne_compile {f : Failure} (h : f.IsEarly) :
    f.stage? ≠ some .compile := by
  rcases h with hClient | hCatalog
  · simp_all [isClientError, stage?]
  · simp [hCatalog]

/-- A failure of the store is never an early one. -/
theorem Failure.not_isEarly_execute {fault : StoreFault} : ¬(Failure.execute fault).IsEarly := by
  simp [IsEarly, isClientError, stage?, cause?]

namespace Engine

variable {engine : Engine} {d : Dialect} {store : Store σ} {call : Call} {state : σ} {f : Failure}

/-- A statement asks the store once, with its text and its values. -/
theorem runStatement_eq (s : Statement) : runStatement store s state =
    (s.rowsOf (store.fetch s.sql s.values state).1, (store.fetch s.sql s.values state).2) := rfl

/-- A rejected specification fails with its rejection. -/
theorem prepare_of_rejected {c : Catalog} {spec : Spec} {r : Rejection}
    (hLoad : Catalog.load engine.source = .ok c)
    (hSpec : spec.resolve c engine.limits.maxLimit = .error r) :
    engine.prepare d spec = .error (.rejected r) := by
  simp only [prepare, catalog, bind_eq_error, mapError_eq_ok, mapError_eq_error]
  exact .inr ⟨c, hLoad, .inl ⟨r, hSpec, rfl⟩⟩

/-- If there is no statement, the store is left alone. -/
theorem execute_of_refused {spec : Spec} (h : engine.prepare store.dialect spec = .error f) :
    engine.execute store spec state = (.error f, state) := by
  rw [execute, h]

/-- A specification with a statement is answered with the report on the rows of that statement. -/
theorem execute_of_prepared {spec : Spec} {plan : Plan} {s : Statement}
    (h : engine.prepare store.dialect spec = .ok (plan, s)) :
    engine.execute store spec state =
      ((s.rowsOf (store.fetch s.sql s.values state).1).map fun (rows, elapsed) =>
        plan.report? s rows elapsed engine.limits.valueCap,
      (store.fetch s.sql s.values state).2) := by
  rw [execute, h]
  rfl

/-- The store is asked for the prepared statement, and for nothing else. -/
theorem asked_of_prepared {spec : Spec} {plan : Plan} {s : Statement}
    (h : engine.prepare store.dialect spec = .ok (plan, s)) :
    (engine.execute store.recorded spec ([], state)).2.1 = [(s.sql, s.values)] := by
  have hRecorded : engine.prepare store.recorded.dialect spec = .ok (plan, s) := h
  rw [execute_of_prepared hRecorded]
  rfl

/-- A call is refused when it is prepared, or it runs one statement and answers with what comes of
it. -/
theorem answer_eq : engine.answer store call state = match engine.prepared store.dialect call with
    | .error f => (.error f, state)
    | .ok (s, present) => ((s.rowsOf (store.fetch s.sql s.values state).1).map present,
        (store.fetch s.sql s.values state).2) := by
  cases call with
  | report spec =>
      simp only [answer, execute, prepared]
      cases engine.prepare store.dialect spec with
      | error f => rfl
      | ok pair =>
          obtain ⟨plan, s⟩ := pair
          simp only [runStatement_eq, Except.map]
          cases s.rowsOf (store.fetch s.sql s.values state).1 <;> rfl
  | values entity field start limit =>
      simp only [answer, distinctValues, prepared]
      cases engine.prepareValues store.dialect entity field start limit with
      | error f => rfl
      | ok s =>
          simp only [runStatement_eq, Except.map]
          cases s.rowsOf (store.fetch s.sql s.values state).1 <;> rfl

/-- A catalog that cannot be loaded is an early failure. -/
theorem early_of_catalog (h : engine.catalog = .error f) : f.IsEarly := by
  obtain ⟨fault, -, rfl⟩ := mapError_eq_error.mp h
  exact .inr rfl

/-- Whatever a call is refused for when it is prepared, it is the caller's to mend or the catalog's.
The statement itself is never the reason. -/
theorem early_of_prepared (h : engine.prepared d call = .error f) : f.IsEarly := by
  cases call with
  | report spec =>
      simp only [prepared, map_eq_error, prepare, bind_eq_error] at h
      rcases h with hCatalog | ⟨c, -, hSpec | ⟨plan, -, hCompile | ⟨s, -, hNever⟩⟩⟩
      · exact early_of_catalog hCatalog
      · obtain ⟨r, -, rfl⟩ := mapError_eq_error.mp hSpec
        exact .inl rfl
      · obtain ⟨clauses, -, hStatement, -⟩ :=
          plan.compile_eq_ok engine.names d engine.limits.sourceLimit
        rw [hStatement] at hCompile
        cases hCompile
      · cases hNever
  | values entity field start limit =>
      simp only [prepared, map_eq_error, prepareValues, guard_eq_error, bind_eq_error] at h
      rcases h with ⟨-, rfl⟩ | ⟨-, hCatalog | ⟨c, -, ⟨-, rfl⟩ | ⟨-, hColumn⟩⟩⟩
      · exact .inl rfl
      · exact early_of_catalog hCatalog
      · exact .inl rfl
      · split at hColumn <;> cases hColumn
        exact .inl rfl

/-- A call that is prepared asks for the statement that is prepared. -/
theorem asks_of_prepared {s : Statement} {present : List Row × Nat → Answer}
    (h : engine.prepared d call = .ok (s, present)) : engine.Asks d call s := by
  cases call with
  | report spec =>
      obtain ⟨⟨plan, own⟩, hPrepare, hSame⟩ := map_eq_ok.mp h
      cases hSame
      exact ⟨plan, hPrepare⟩
  | values entity field start limit =>
      obtain ⟨own, hPrepare, hSame⟩ := map_eq_ok.mp h
      cases hSame
      simp only [prepareValues, guard_eq_ok, bind_eq_ok] at hPrepare
      obtain ⟨-, c, hCatalog, -, hColumn⟩ := hPrepare
      split at hColumn <;> cases hColumn
      next column hFound => exact ⟨c, column, mapError_eq_ok.mp hCatalog, hFound, rfl⟩

/-- A call that comes to no report has been prepared for a pivot that there is no room for. -/
theorem not_fits_of_prepared {s : Statement} {present : List Row × Nat → Answer} {rows : List Row}
    {elapsed : Nat} (h : engine.prepared d call = .ok (s, present))
    (hNone : present (rows, elapsed) = .report none) :
    ∃ spec plan, call = .report spec ∧ engine.prepare d spec = .ok (plan, s) ∧
      ¬(plan.layout engine.limits.valueCap).Fits rows := by
  cases call with
  | report spec =>
      obtain ⟨⟨plan, own⟩, hPrepare, hSame⟩ := map_eq_ok.mp h
      cases hSame
      refine ⟨spec, plan, rfl, hPrepare, ?_⟩
      intro hFits
      have hReport := Answer.report.inj hNone
      rw [Plan.report?, pivot?_eq_some hFits] at hReport
      split at hReport <;> cases hReport
  | values entity field start limit =>
      obtain ⟨own, -, hSame⟩ := map_eq_ok.mp h
      cases hSame
      cases hNone

/-- The two ways in which a call is served. -/
theorem serve_cases {calls : List (Source × Call)} {s : Served σ}
    (h : s ∈ engine.serve store calls state) :
    (∃ f, ({ engine with source := s.source } : Engine).prepared store.dialect s.call = .error f ∧
      s.asked = [] ∧ s.answer = .error f) ∨
    ∃ statement present,
      ({ engine with source := s.source } : Engine).prepared store.dialect s.call =
        .ok (statement, present) ∧
      s.asked = [(statement.sql, statement.values)] ∧
      s.answer =
        (statement.rowsOf (store.fetch statement.sql statement.values s.before).1).map present := by
  induction calls generalizing state with
  | nil => cases h
  | cons request rest ih =>
      obtain ⟨source, call⟩ := request
      rw [serve, answer_eq] at h
      have hDialect : store.recorded.dialect = store.dialect := rfl
      rw [hDialect] at h
      cases hPrepared : ({ engine with source } : Engine).prepared store.dialect call with
      | error f =>
          rw [hPrepared] at h
          rcases List.mem_cons.mp h with rfl | hRest
          · exact .inl ⟨f, hPrepared, rfl, rfl⟩
          · exact ih hRest
      | ok pair =>
          rw [hPrepared] at h
          rcases List.mem_cons.mp h with rfl | hRest
          · exact .inr ⟨pair.1, pair.2, hPrepared, rfl, rfl⟩
          · exact ih hRest

end Engine

/-- A row does not fit the columns of its reply. -/
def Reply.IsRagged (reply : Reply) : Prop :=
  ∃ row ∈ reply.set.rows, row.length ≠ reply.set.columns.length

/-- A row is refused for its length only. -/
theorem keyRow_eq_error {measures columns : List String} {values : List Json} {fault : ShapeFault}
    (h : keyRow measures columns values = .error fault) : values.length ≠ columns.length := by
  unfold keyRow at h
  split at h
  next => cases h
  next hOther => exact hOther

/-- A row that does not fit leaves nothing of the others. The fault is that of one such row. -/
theorem RowSet.exists_keyed_eq_error {set : RowSet} (measures : List String)
    (h : ∃ row ∈ set.rows, row.length ≠ set.columns.length) :
    ∃ row ∈ set.rows, row.length ≠ set.columns.length ∧
      set.keyed measures = .error ⟨set.columns.length, row.length⟩ := by
  cases hKeyed : set.keyed measures with
  | ok rows =>
      obtain ⟨row, hMem, hOther⟩ := h
      obtain ⟨keyed, -, hRow⟩ := exists_of_forall₂_right (mapM_eq_ok.mp hKeyed).flip hMem
      simp [keyRow, hOther] at hRow
  | error fault =>
      obtain ⟨row, hMem, hRow⟩ := exists_of_mapM_eq_error hKeyed
      have hOther := keyRow_eq_error hRow
      rw [keyRow, if_neg hOther] at hRow
      cases hRow
      exact ⟨row, hMem, hOther, rfl⟩

namespace Statement

variable {s : Statement} {reply : Reply}

/-- When a statement has been run, nothing but its run is to blame. -/
theorem rowsOf_eq_error {reply : Except StoreFault Reply} {f : Failure}
    (h : s.rowsOf reply = .error f) : ∃ fault, f = .execute fault := by
  obtain ⟨fault, -, rfl⟩ := mapError_eq_error.mp h
  exact ⟨fault, rfl⟩

/-- A reply comes to its rows under the names of its columns, if they fit. -/
theorem rowsOf_ok : s.rowsOf (.ok reply) =
    ((reply.set.keyed s.measureKeys).mapError fun fault => .execute (.shape fault)).map
      fun rows => (rows, reply.elapsedMillis) := by
  cases hKeyed : reply.set.keyed s.measureKeys <;> simp [rowsOf, bind, Except.bind, hKeyed] <;> rfl

/-- A row that does not fit leaves nothing of its reply. -/
theorem rowsOf_ragged (h : reply.IsRagged) :
    ∃ fault, s.rowsOf (.ok reply) = .error (.execute (.shape fault)) := by
  obtain ⟨row, -, -, hKeyed⟩ := reply.set.exists_keyed_eq_error s.measureKeys h
  rw [rowsOf_ok, hKeyed]
  exact ⟨_, rfl⟩

/-- Rows that all fit their columns are taken. -/
theorem rowsOf_even (h : ¬reply.IsRagged) : ∃ rows, s.rowsOf (.ok reply) = .ok rows := by
  cases hKeyed : reply.set.keyed s.measureKeys with
  | error fault =>
      obtain ⟨row, hMem, hRow⟩ := exists_of_mapM_eq_error hKeyed
      exact absurd ⟨row, hMem, keyRow_eq_error hRow⟩ h
  | ok rows =>
      rw [rowsOf_ok, hKeyed]
      exact ⟨_, rfl⟩

end Statement

/-- What is promised of a call that an engine has served. -/
structure Served.Sound (engine : Engine) (store : Store σ) (s : Served σ) : Prop where
  /-- A call that the caller has to mend, or that the catalog failed, leaves the store alone. -/
  refused : ∀ f, s.answer = .error f → f.IsEarly → s.asked = []
  /-- Any other call asks the store once, for the statement that it comes to. -/
  asks : (∀ f, s.answer = .error f → ¬f.IsEarly) →
    ∃ statement, ({ engine with source := s.source } : Engine).Asks store.dialect s.call statement ∧
      s.asked = [(statement.sql, statement.values)]
  compiles : ∀ f, s.answer = .error f → f.stage? ≠ some .compile
  failed : ∀ fault, .error fault ∈ s.replies store → s.answer = .error (.execute fault)
  ragged : ∀ reply, .ok reply ∈ s.replies store → reply.IsRagged →
    ∃ fault, s.answer = .error (.execute (.shape fault))
  even : ∀ reply, .ok reply ∈ s.replies store → ¬reply.IsRagged → ∃ answer, s.answer = .ok answer
  /-- There is a report unless there is no room for the pivot of the rows that the store replied. -/
  room : s.answer = .ok (.report none) → ∃ spec plan statement reply rows elapsed,
    s.call = .report spec ∧
    ({ engine with source := s.source } : Engine).prepare store.dialect spec =
      .ok (plan, statement) ∧
    s.replies store = [reply] ∧ statement.rowsOf reply = .ok (rows, elapsed) ∧
    ¬(plan.layout engine.limits.valueCap).Fits rows

namespace Engine

variable (engine : Engine) {store : Store σ} {calls : List (Source × Call)} {state : σ}

/-- Every served call is sound, by induction over the calls before it. -/
theorem sound_of_mem_serve {s : Served σ} (h : s ∈ engine.serve store calls state) :
    s.Sound engine store := by
  rcases serve_cases h with ⟨f, hPrepared, hAsked, hAnswer⟩ |
    ⟨statement, present, hPrepared, hAsked, hAnswer⟩
  · -- Refused: there is no reply, and the failure is an early one.
    have hEarly := early_of_prepared hPrepared
    have hReplies : s.replies store = [] := by rw [Served.replies, hAsked, List.map_nil]
    have hFailure (g : Failure) (hOther : s.answer = .error g) : g = f :=
      Except.error.inj (hOther.symm.trans hAnswer)
    constructor
    case refused => exact fun _ _ _ => hAsked
    case asks => exact fun hLate => absurd hEarly (hLate f hAnswer)
    case compiles =>
      intro g hOther
      rw [hFailure g hOther]
      exact hEarly.stage?_ne_compile
    case failed | ragged | even => simp [hReplies]
    case room =>
      intro hNone
      cases hAnswer.symm.trans hNone
  · -- Run: there is one reply, and the answer is made of it.
    have hReplies : s.replies store =
        [(store.fetch statement.sql statement.values s.before).1] := by
      rw [Served.replies, hAsked, List.map_singleton]
    have hExecute (f : Failure) (hFails : s.answer = .error f) : ∃ fault, f = .execute fault :=
      Statement.rowsOf_eq_error (map_eq_error.mp (hAnswer.symm.trans hFails))
    constructor
    case refused =>
      intro f hFails hEarly
      obtain ⟨fault, rfl⟩ := hExecute f hFails
      exact absurd hEarly Failure.not_isEarly_execute
    case asks => exact fun _ => ⟨statement, asks_of_prepared hPrepared, hAsked⟩
    case compiles =>
      intro f hFails
      obtain ⟨fault, rfl⟩ := hExecute f hFails
      simp [Failure.stage?, Failure.cause?]
    case failed =>
      intro fault hMem
      rw [hReplies, List.mem_singleton] at hMem
      rw [hAnswer, ← hMem]
      rfl
    case ragged =>
      intro reply hMem hRagged
      rw [hReplies, List.mem_singleton] at hMem
      obtain ⟨fault, hRows⟩ := statement.rowsOf_ragged hRagged
      exact ⟨fault, by rw [hAnswer, ← hMem, hRows]; rfl⟩
    case even =>
      intro reply hMem hEven
      rw [hReplies, List.mem_singleton] at hMem
      obtain ⟨rows, hRows⟩ := statement.rowsOf_even hEven
      exact ⟨present rows, by rw [hAnswer, ← hMem, hRows]; rfl⟩
    case room =>
      intro hNone
      obtain ⟨⟨rows, elapsed⟩, hRows, hPresent⟩ := map_eq_ok.mp (hAnswer.symm.trans hNone)
      obtain ⟨spec, plan, hCall, hPrepare, hFits⟩ := not_fits_of_prepared hPrepared hPresent
      exact ⟨spec, plan, statement, _, rows, elapsed, hCall, hPrepare, hReplies, hRows, hFits⟩

/-- What a call is answered depends on the replies that it gets itself. -/
theorem answer_eq_of_replies {other : Store τ} {otherCalls : List (Source × Call)} {otherState : τ}
    {s : Served σ} {t : Served τ} (h : s ∈ engine.serve store calls state)
    (hOther : t ∈ engine.serve other otherCalls otherState)
    (hDialect : other.dialect = store.dialect) (hSource : t.source = s.source)
    (hCall : t.call = s.call) (hReplies : t.replies other = s.replies store) :
    t.answer = s.answer := by
  have hCases := serve_cases h
  have hOtherCases := serve_cases hOther
  rw [hDialect, hSource, hCall] at hOtherCases
  rcases hCases with ⟨f, hPrepared, hAsked, hAnswer⟩ |
    ⟨statement, present, hPrepared, hAsked, hAnswer⟩
  · rcases hOtherCases with ⟨g, hSame, -, hOtherAnswer⟩ | ⟨_, _, hSame, -⟩
    · cases hPrepared.symm.trans hSame
      rw [hAnswer, hOtherAnswer]
    · cases hPrepared.symm.trans hSame
  · rcases hOtherCases with ⟨_, hSame, -⟩ | ⟨_, _, hSame, hOtherAsked, hOtherAnswer⟩
    · cases hPrepared.symm.trans hSame
    · cases hPrepared.symm.trans hSame
      have hReply : (other.fetch statement.sql statement.values t.before).1 =
          (store.fetch statement.sql statement.values s.before).1 := by
        simpa [Served.replies, hAsked, hOtherAsked] using hReplies
      rw [hAnswer, hOtherAnswer, hReply]

/-- Calls are served in order, and none is left out. -/
theorem map_serve (store : Store σ) (calls : List (Source × Call)) (state : σ) :
    (engine.serve store calls state).map (fun s => (s.source, s.call)) = calls := by
  induction calls generalizing state with
  | nil => rfl
  | cons request rest ih =>
      rw [serve, List.map_cons, ih]

end Engine

/-- Every call is served soundly, whatever the catalog's source and the store reply and whatever has
been called before. What was called before, and what the store replied to that, does not show in the
answer. -/
theorem sound_serve (engine : Engine) :
    (∀ {σ : Type} (store : Store σ) (calls : List (Source × Call)) (state : σ),
      (engine.serve store calls state).map (fun s => (s.source, s.call)) = calls ∧
        ∀ s ∈ engine.serve store calls state, s.Sound engine store) ∧
    ∀ {σ τ : Type} (store : Store σ) (other : Store τ), other.dialect = store.dialect →
      ∀ (calls otherCalls : List (Source × Call)) (state : σ) (otherState : τ),
      ∀ s ∈ engine.serve store calls state, ∀ t ∈ engine.serve other otherCalls otherState,
        t.source = s.source → t.call = s.call → t.replies other = s.replies store →
          t.answer = s.answer := by
  constructor
  · intro σ store calls state
    exact ⟨engine.map_serve store calls state, fun s hMem => engine.sound_of_mem_serve hMem⟩
  · intro σ τ store other hDialect calls otherCalls state otherState s hMem t hOther
    exact engine.answer_eq_of_replies hMem hOther hDialect

/-- A store that replies with a row that lacks a value, and counts what it is asked. -/
def Store.uneven : Store Nat where
  dialect := .sqlite
  fetch _ _ count :=
    (.ok { set := ⟨["reason", "refund"], [[.text "LATE", .bool true], [.text "LOST"]]⟩ }, count + 1)

def Engine.builtin : Engine := { source := Registry.builtin.source }

/-- A call for no value at all, and a call for a report. -/
def Call.pair : List (Source × Call) :=
  [(Registry.builtin.source, .values "inventory" "brand" none 0),
    (Registry.builtin.source, .report Spec.refundsByReason)]

/-- A call for no value fails early, and a short row in the reply fails the call with its shape. -/
theorem sound_uneven : ∃ refused run again,
    Engine.builtin.serve .uneven Call.pair 0 = [refused, run] ∧
    again ∈ Engine.builtin.serve .uneven (Call.pair.drop 1) 5 ∧
    refused.asked = [] ∧ run.asked.length = 1 ∧
    (∃ fault, run.answer = .error (.execute (.shape fault))) ∧ again.answer = run.answer := by
  obtain ⟨hSound, hSame⟩ := sound_serve Engine.builtin
  obtain ⟨-, hServed⟩ := hSound .uneven Call.pair 0
  have hRefused := hServed _ List.mem_cons_self
  have hRun := hServed _ (List.mem_cons_of_mem _ List.mem_cons_self)
  have hEqual := hSame .uneven .uneven rfl Call.pair (Call.pair.drop 1) 0 5 _
    (List.mem_cons_of_mem _ List.mem_cons_self) _ List.mem_cons_self rfl rfl rfl
  refine ⟨_, _, _, rfl, List.mem_cons_self, ?_, rfl, ?_, hEqual⟩
  · exact hRefused.refused _ rfl (.inl rfl)
  · exact hRun.ragged _ List.mem_cons_self ⟨_, List.mem_cons_of_mem _ List.mem_cons_self, by decide⟩

end Crosstab
