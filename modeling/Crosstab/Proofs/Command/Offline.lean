import Crosstab.Command.Basic
import Crosstab.Proofs.Catalog.Registration
import Crosstab.Proofs.Report.Flat

/-!
Statements printed without an engine, and statements run by one. Both are made from the same
settings, but on ways of their own: one reads the catalog, the names and the limits where they
stand, the other has them from the engine and the dialect from its store. They never differ in what
becomes of a specification.
-/

namespace Crosstab

open Crosstab.Sql

/-- The text of a statement, and its values numbered below it, one to a line. -/
def listingOf (sql : String) (values : List Value) : String :=
  sql ++ "\n" ++ if values.isEmpty then "" else
    "\n" ++ String.join (values.zipIdx.map fun (value, i) =>
      "-- param " ++ toString (i + 1) ++ ": " ++ value.display ++ "\n")

/-- What is printed without an engine agrees with what an engine does over any store of a
dialect. -/
inductive Printout.AgreesWith (engine : Engine) (d : Dialect) (spec : Spec) : Printout → Prop
  /-- The specification is rejected, for the same reason on both sides, and no store is asked. -/
  | rejected (r : Rejection)
      (hRejected : ∀ (σ : Type) (store : Store σ) (state : σ), store.dialect = d →
        engine.execute store.recorded spec ([], state) = (.error (.rejected r), [], state)) :
      AgreesWith engine d spec
        { exitCode := 2, messages := ["Error [" ++ r.code ++ "]: " ++ r.message] }
  /-- The statement that is printed with its values is the one that the store is asked to run, once.
  The warnings that are printed are those of the plan, with which every report on the specification
  begins. -/
  | listed {c : Catalog} {plan : Plan} (sql : String) (values : List Value)
      (hLoad : Catalog.load engine.source = .ok c)
      (hSpec : spec.resolve c engine.limits.maxLimit = .ok plan)
      (hAsked : ∀ (σ : Type) (store : Store σ) (state : σ), store.dialect = d →
        (engine.execute store.recorded spec ([], state)).2.1 = [(sql, values)])
      (hWarnings : ∀ (σ : Type) (store : Store σ) (state : σ) (report : Report), store.dialect = d →
        (engine.execute store spec state).1 = .ok (some report) →
          plan.warnings <+: report.warnings) :
      AgreesWith engine d spec
        { output := listingOf sql values, messages := plan.warnings.map ("warning: " ++ ·) }

/-- What is printed of a statement is its text with its values below it. -/
theorem Statement.listing_eq (s : Statement) : s.listing = listingOf s.sql s.values := by
  unfold listing listingOf parameterLines
  split <;> simp [String.join_cons, Function.comp_def, String.append_assoc]

/-- A report begins with the warnings of its plan. -/
theorem Plan.prefix_warnings {plan : Plan} {s : Statement} {rows : List Row} {elapsed cap : Nat}
    {report : Report} (h : plan.report? s rows elapsed cap = some report) :
    plan.warnings <+: report.warnings := by
  unfold report? at h
  split at h
  next =>
    obtain ⟨table, -, rfl⟩ := Option.map_eq_some_iff.mp h
    show plan.warnings <+: plan.warnings ++ plan.joinWarnings rows ++ _
    rw [List.append_assoc]
    exact List.prefix_append _ _
  next =>
    obtain rfl := Option.some.inj h
    exact List.prefix_append _ _

theorem Limits.checked_eq_ok {l limits : Limits} (h : l.checked = .ok limits) : limits = l := by
  unfold checked at h
  split at h <;> cases h
  rfl

namespace Settings

variable {s : Settings} {limits : Limits}

/-- The engine with the catalog, the names and the limits that stand in settings. -/
def uncheckedEngine (s : Settings) : Engine where
  source := s.catalog.registry.source
  names := s.mapping.naming
  limits := s.query

/-- If all limits are positive, the engine is the one that stands in the settings. -/
theorem engine_eq (h : s.query.checked = .ok limits) : s.engine = .ok s.uncheckedEngine := by
  rw [engine, h, Limits.checked_eq_ok h]
  rfl

/-- An engine with a store is the engine without one. -/
theorem engine_of_setup {σ : Type} {env : Environment} {connector : Connector σ} {setup : Setup σ}
    (h : s.setup env connector = .ok setup) : s.engine = .ok setup.engine := by
  simp only [Settings.setup, bind_eq_ok, mapError_eq_ok] at h
  obtain ⟨opened, -, engine, hEngine, hSetup⟩ := h
  cases hSetup
  exact hEngine

/-- What is printed for a specification that is rejected. -/
theorem compileOffline_rejected {callId : String} {d : Dialect} {spec : Spec} {r : Rejection}
    (h : spec.resolve s.catalog.registry.catalog s.query.maxLimit = .error r) :
    s.compileOffline callId d spec =
      { exitCode := 2, messages := ["Error [" ++ r.code ++ "]: " ++ r.message] } := by
  rw [compileOffline, Registry.load_source]
  simp only [h]
  rfl

/-- What is printed for a specification with a plan. -/
theorem compileOffline_listed {callId : String} {d : Dialect} {spec : Spec} {plan : Plan}
    {statement : Statement}
    (hSpec : spec.resolve s.catalog.registry.catalog s.query.maxLimit = .ok plan)
    (hCompile : plan.compile s.mapping.naming d s.query.sourceLimit = .ok statement) :
    s.compileOffline callId d spec =
      { output := listingOf statement.sql statement.values
        messages := plan.warnings.map ("warning: " ++ ·) } := by
  rw [compileOffline, Registry.load_source]
  simp only [hSpec, hCompile, statement.listing_eq]

/-- The id of a call is not printed, because nothing but the specification can be at fault. -/
theorem compileOffline_callId (callId other : String) (d : Dialect) (spec : Spec) :
    s.compileOffline callId d spec = s.compileOffline other d spec := by
  cases hSpec : spec.resolve s.catalog.registry.catalog s.query.maxLimit with
  | error r => rw [compileOffline_rejected hSpec, compileOffline_rejected hSpec]
  | ok plan =>
      obtain ⟨clauses, -, hCompile, -⟩ := plan.compile_eq_ok s.mapping.naming d s.query.sourceLimit
      rw [compileOffline_listed hSpec hCompile, compileOffline_listed hSpec hCompile]

/-- Whatever becomes of a specification is printed and done alike. -/
theorem compileOffline_agreesWith (callId : String) (d : Dialect) (spec : Spec) :
    (s.compileOffline callId d spec).AgreesWith s.uncheckedEngine d spec := by
  have hLoad : Catalog.load s.uncheckedEngine.source = .ok s.catalog.registry.catalog :=
    s.catalog.registry.load_source
  cases hSpec : spec.resolve s.catalog.registry.catalog s.query.maxLimit with
  | error r =>
      have hRefused : s.uncheckedEngine.prepare d spec = .error (.rejected r) :=
        Engine.prepare_of_rejected hLoad hSpec
      rw [compileOffline_rejected hSpec]
      apply Printout.AgreesWith.rejected
      intro σ store state hDialect
      cases hDialect
      exact Engine.execute_of_refused hRefused
  | ok plan =>
      obtain ⟨clauses, -, hCompile, -⟩ := plan.compile_eq_ok s.mapping.naming d s.query.sourceLimit
      have hPrepared : s.uncheckedEngine.prepare d spec =
          .ok (plan, plan.statement _ d _ clauses) :=
        Engine.prepare_eq_ok hLoad hSpec hCompile
      rw [compileOffline_listed hSpec hCompile]
      apply Printout.AgreesWith.listed _ _ hLoad hSpec
      · intro σ store state hDialect
        cases hDialect
        exact Engine.asked_of_prepared hPrepared
      · intro σ store state report hDialect hReport
        cases hDialect
        rw [Engine.execute_of_prepared hPrepared] at hReport
        obtain ⟨⟨rows, elapsed⟩, -, hMade⟩ := map_eq_ok.mp hReport
        exact Plan.prefix_warnings hMade

end Settings

/-- Settings whose limits are accepted describe an engine, and for every specification and every
dialect the command that prints its statement agrees with that engine over every store of the
dialect: whatever else the command finds around it, and however the store is opened. -/
theorem offline_agrees {s : Settings} {limits : Limits} (hLimits : s.query.checked = .ok limits)
    (spec : Spec) (d : Dialect) : ∃ (engine : Engine) (printout : Printout),
      s.engine = .ok engine ∧ printout.AgreesWith engine d spec ∧
      (∀ callId, s.compileOffline callId d spec = printout) ∧
      ∀ (σ : Type) (w : World σ),
        (∀ path, w.specIn path = .ok spec → w.carryOut s (.compile path d) = (printout, none)) ∧
        ∀ setup, s.setup w.environment w.connector = .ok setup → setup.engine = engine := by
  have hEngine := Settings.engine_eq hLimits
  have hSame (callId : String) := s.compileOffline_callId callId "" d spec
  have hAgrees := s.compileOffline_agreesWith "" d spec
  refine ⟨s.uncheckedEngine, s.compileOffline "" d spec, hEngine, hAgrees, hSame, ?_⟩
  intro σ w
  constructor
  · intro path hFile
    simp only [World.carryOut, hFile, hSame w.callId]
  · intro setup hSetup
    have hOwn := Settings.engine_of_setup hSetup
    rw [hEngine] at hOwn
    exact (Except.ok.inj hOwn).symm

/-- Without a settings file the limits are accepted, and the refunds of goods in the inventory have
a statement. -/
theorem offline_agrees_refunds : ({} : Settings).query.checked = .ok {} ∧
    ∃ (engine : Engine) (printout : Printout), ({} : Settings).engine = .ok engine ∧
      printout.AgreesWith engine .sqlite .refundsByReason ∧ printout.exitCode = 0 ∧
      ∀ callId, ({} : Settings).compileOffline callId .sqlite .refundsByReason = printout := by
  have hLimits : ({} : Settings).query.checked = .ok {} := rfl
  obtain ⟨engine, printout, hEngine, hAgrees, hPrinted, -⟩ :=
    offline_agrees hLimits .refundsByReason .sqlite
  have hListed : (({} : Settings).compileOffline "" .sqlite .refundsByReason).exitCode = 0 := rfl
  exact ⟨hLimits, engine, printout, hEngine, hAgrees, hPrinted "" ▸ hListed, hPrinted⟩

end Crosstab
