import Crosstab.Proofs.Plan.Resolve
import Crosstab.Proofs.Plan.Value
import Crosstab.Proofs.Statement.Placeholders
import Crosstab.Worker.Session

/-!
What a worker is handed beside a statement. A number without a JSON form would be sent as the null
value; that never happens, because a filter value that denotes such a number is refused while a
specification is resolved, long before its statement exists.
-/

namespace Crosstab

open Crosstab.Sql

/-- What a bound value is sent as: a text as itself, and a number as itself if it is finite. -/
inductive Sql.Value.SentAs : Value → Json → Prop
  | text (s : String) : SentAs (.text s) (.text s)
  | number {x : Float} (hFinite : x.isFinite) : SentAs (.number x) (.number (.float x))

theorem Sql.Value.SentAs.isNull_eq_false {value : Value} {arg : Json} (h : value.SentAs arg) :
    arg.isNull = false := by
  cases h <;> rfl

/-- A request that carries a statement to where a route leads. -/
structure Request.Carries (r : Request) (route : Route) (s : Statement) (args : List Json) :
    Prop where
  /-- The request as it is written. Its arguments are left out just if nothing stands for one. -/
  written : r.toJson = .object [
    ("id", .text r.id), ("method", .text "query.execute"),
    ("params", .object ([("driver", .text route.dialect.name),
      ("connection_string", .text route.connection), ("sql", .text s.sql)] ++
        if placeholders s.tokens = [] then [] else [("args", .list args)]))]
  /-- The placeholders count the arguments. -/
  numbered : placeholders s.tokens = List.range' 1 args.length
  sent : List.Forall₂ Value.SentAs s.values args
  given : ∀ arg ∈ args, arg.isNull = false

/-- An operand that a text denotes has a JSON form. -/
theorem Denotes.sentAs {kind : ValueKind} {s : String} {x : Operand} (h : Denotes kind s x) :
    x.value.SentAs x.value.toJson := by
  cases h with
  | @number s x _ hFinite =>
      have hJson : Json.float x = .number (.float x) := if_pos hFinite
      rw [Operand.value, Value.toJson, hJson]
      exact .number hFinite
  | date _ => exact .text _
  | text => exact .text _

/-- Every value that a filter binds can be sent. -/
theorem FilterValue.Reads.sentAs {kind : ValueKind} {operator : FilterOperator}
    {given : Option Json} {value : FilterValue} (h : Reads kind operator given value) :
    ∀ v ∈ value.values, v.SentAs v.toJson := by
  cases h with
  | absent _ => exact List.forall_mem_nil _
  | members _ _ =>
      intro v hMem
      obtain ⟨s, -, rfl⟩ := List.mem_map.mp hMem
      exact .text s
  | bounds _ hLow hHigh =>
      exact List.forall_mem_cons.mpr ⟨hLow.sentAs, List.forall_mem_singleton.mpr hHigh.sentAs⟩
  | pattern _ _ _ => exact List.forall_mem_singleton.mpr (.text _)
  | scalar _ _ _ hOperand => exact List.forall_mem_singleton.mpr hOperand.sentAs

/-- All that the filters of an accepted specification bind has a JSON form. -/
theorem Spec.ResolvesTo.sentAs {spec : Spec} {c : Catalog} {maxLimit : UInt64} {plan : Plan}
    (h : spec.ResolvesTo c maxLimit plan) :
    ∀ v ∈ plan.filters.flatMap PlannedFilter.operands, v.SentAs v.toJson := by
  intro v hMem
  obtain ⟨f, hFilter, hOperand⟩ := List.mem_flatMap.mp hMem
  obtain ⟨given, -, hResolved⟩ := exists_of_forall₂_right h.filters hFilter
  obtain ⟨-, -, hRead⟩ := Catalog.resolveFilter_eq_ok.mp hResolved
  rw [f.operands_eq] at hOperand
  split at hOperand
  next => cases hOperand
  next => exact (FilterValue.read_eq_ok.mp hRead).sentAs v hOperand

/-- The statement of a plan binds what the filters of the plan bind, with a placeholder for each. -/
theorem Plan.exists_statement (plan : Plan) (names : Naming) (d : Dialect) (sourceLimit : UInt64) :
    ∃ s, plan.compile names d sourceLimit = .ok s ∧
      s.values = plan.filters.flatMap PlannedFilter.operands ∧
      placeholders s.tokens = List.range' 1 s.values.length := by
  obtain ⟨clauses, -, hCompile, hJoins, hProbes⟩ := plan.compile_eq_ok names d sourceLimit
  have hValues : (plan.statement names d sourceLimit clauses).values =
      plan.filters.flatMap PlannedFilter.operands := by
    rw [Plan.statement, plan.filterConditions_values]
    rfl
  refine ⟨_, hCompile, hValues, ?_⟩
  rw [hValues]
  exact plan.placeholders_statement names d sourceLimit hJoins hProbes

namespace Session

variable (s : Session)

theorem peer_afterAll (events : List Event) : (s.afterAll events).peer = s.peer := by
  induction events generalizing s with
  | nil => rfl
  | cons event events ih => exact ih (s.after event)

/-- A request is written as long as the worker reads, and that leaves the worker as it is. -/
theorem send_written (r : Request) :
    (s.send r).1.peer = s.peer ∧ (s.send r).2 = if s.peer.reads then [r] else [] := by
  have hReads :
      ({ s with count := s.count + 1 }.after (.register r.id)).peer.reads = s.peer.reads :=
    rfl
  simp only [send, hReads]
  split
  next => exact ⟨rfl, rfl⟩
  next => exact ⟨rfl, rfl⟩

theorem peer_settle (id : String) : (s.settle id).peer = s.peer :=
  (s.after (.collect id)).peer_afterAll [.expire id, .leave id]

end Session

/-- What a worker does about a request does not change what it has read. -/
theorem Peer.seen_act (id : String) (p : Peer) (action : PeerAction) :
    (p.act id action).1.seen = p.seen := by
  cases action <;> rfl

/-- What a worker does is nothing that it reads. -/
theorem Peer.seen_actAll (id : String) (p : Peer) (actions : List PeerAction) :
    (p.actAll id actions).1.seen = p.seen := by
  induction actions generalizing p with
  | nil => rfl
  | cons action actions ih => exact (ih (p.act id action).1).trans (p.seen_act id action)

/-- A worker that reads has seen what it is sent. -/
theorem Peer.seen_receive (p : Peer) (r : Request) :
    (p.receive r).1.seen = p.seen ++ if p.reads then [r] else [] := by
  unfold receive
  split
  next => exact seen_actAll r.id _ _
  next => exact (List.append_nil p.seen).symm

/-- A request that has been written is read as long as the worker reads. -/
theorem Session.seen_answer (s : Session) (r : Request) :
    (s.answer [r]).peer.seen = s.peer.seen ++ if s.peer.reads then [r] else [] := by
  calc (s.answer [r]).peer.seen
    _ = (s.peer.receive r).1.seen :=
        congrArg Peer.seen (peer_afterAll { s with peer := (s.peer.receive r).1 } _)
    _ = s.peer.seen ++ if s.peer.reads then [r] else [] := s.peer.seen_receive r

/-- A statement run reaches the worker once, as long as the worker reads. -/
theorem Session.seen_fetch (s : Session) (route : Route) (sql : String) (values : List Value) :
    (s.fetch route sql values).2.peer.seen =
      s.peer.seen ++ if s.peer.reads then [s.request route sql values] else [] := by
  obtain ⟨hPeer, hWritten⟩ := s.send_written (s.request route sql values)
  rw [fetch]
  show (settle _ _).peer.seen = _
  rw [peer_settle, hWritten]
  by_cases hReads : s.peer.reads
  · rw [if_pos hReads, seen_answer, hPeer, if_pos hReads]
  · rw [if_neg hReads, List.append_nil]
    exact congrArg Peer.seen hPeer

/-- Whatever the worker does and has done, an accepted specification is sent to it in one request,
which carries the text of the statement and an argument for each placeholder: the bound value of
that number, and never the null value. -/
theorem carries_fetch {spec : Spec} {c : Catalog} {maxLimit : UInt64} {plan : Plan}
    (hSpec : spec.resolve c maxLimit = .ok plan) (names : Naming) (route : Route)
    (sourceLimit : UInt64) : ∃ statement args,
      plan.compile names route.dialect sourceLimit = .ok statement ∧
      ∀ s : Session, ∃ r : Request, r.Carries route statement args ∧
        ((Store.worker route).fetch statement.sql statement.values s).2.peer.seen =
          s.peer.seen ++ if s.peer.reads then [r] else [] := by
  obtain ⟨statement, hCompile, hValues, hPlaceholders⟩ :=
    plan.exists_statement names route.dialect sourceLimit
  have hForms : ∀ v ∈ statement.values, v.SentAs v.toJson :=
    hValues ▸ (Spec.resolve_ok hSpec).sentAs
  have hSent : List.Forall₂ Value.SentAs statement.values (statement.values.map Value.toJson) :=
    List.forall₂_map_right_iff.mpr (List.forall₂_same.mpr hForms)
  -- Arguments are left out where no value is bound, and that is where there is no placeholder.
  have hEmpty : placeholders statement.tokens = [] ↔ statement.values.isEmpty := by
    rw [hPlaceholders, List.range'_eq_nil_iff, List.isEmpty_iff_length_eq_zero]
  refine ⟨statement, statement.values.map Value.toJson, hCompile, fun s =>
    ⟨s.request route statement.sql statement.values, ?_, s.seen_fetch route _ _⟩⟩
  exact {
    written := by
      simp only [hEmpty]
      rfl
    numbered := by rw [hPlaceholders, List.length_map]
    sent := hSent
    given := fun arg hMem => by
      obtain ⟨v, hBound, rfl⟩ := List.mem_map.mp hMem
      exact (hForms v hBound).isNull_eq_false }

/-- The brands with more than five pieces of one of two articles. -/
def Spec.stockedBrands : Spec where
  dimensions := [{ column := { entity := "inventory", field := "brand" }, key := "brand" }]
  filters := [
    { column := { entity := "inventory", field := "quantity" }, operator := .greaterThan,
      value := some (.text "5") },
    { column := { entity := "inventory", field := "sku" }, operator := .isIn,
      value := some (.text "A1, B2") }]

/-- A number and two texts are sent for three placeholders. -/
theorem carries_stockedBrands : ∃ c plan statement args,
    Spec.stockedBrands.resolve c 10 = .ok plan ∧ plan.compile {} .duckdb 100 = .ok statement ∧
    statement.values = [.number 5, .text "A1", .text "B2"] ∧
    ∃ r : Request, r.Carries { dialect := .duckdb, connection := "stock.duckdb" } statement args ∧
      ((Store.worker { dialect := .duckdb, connection := "stock.duckdb" }).fetch statement.sql
        statement.values {}).2.peer.seen = [r] := by
  let c : Catalog := ⟨Builtin.entities, [("inventory", Builtin.inventoryColumns)], []⟩
  obtain ⟨statement, args, hCompile, hSent⟩ := @carries_fetch .stockedBrands c 10 _ rfl {}
    { dialect := .duckdb, connection := "stock.duckdb" } 100
  have hValues : statement.values = [.number 5, .text "A1", .text "B2"] := by
    cases hCompile
    rfl
  exact ⟨c, _, statement, args, rfl, hCompile, hValues, hSent {}⟩

end Crosstab
