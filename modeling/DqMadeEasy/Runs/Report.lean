import DqMadeEasy.Runs.ResultStore

/-!
# Reports of runs

The endpoint that takes a report: it records the transition, then the result event of a terminal
report, and then counts the violations. Each of the three has its own store and its own handler.
-/

namespace DqMadeEasy

namespace Runs

open Artifacts Worker

/-- The stores that the endpoint is given: the runs, the result events and the exception facts. -/
structure Api (Store : Type) where
  runs : Store
  events : EventStore
  exceptionFacts : List Dict

/-- The readers of suites and of rules that the endpoint is given. -/
structure Lookups where
  getSuiteById : Text → Option ℤ → Except PyError (Option GxArtifactEnvelope)
  getRuleById : Text → Except PyError (Option RuleEntity)

/-- What the endpoint raises. -/
inductive ReportError where
  | runNotFound (runId : Text)
  | historyPersistenceFailed (runId : Text) (exception : String)
  | raised (exc : PyError)

/-- `build_gx_execution_run_status_transition_entity` of a report. -/
def buildTransition (runId : Text) (body : ReportBody) : Except PyError StatusTransition := do
  let resultSummary ← body.resultSummary.mapM (validateModel resultSummaryFields)
  let diagnostics ← body.diagnostics.mapM fun items => items.mapM (validateModel diagnosticFields)
  return {
    runId
    newStatus := body.newStatus
    changedBy := body.changedBy
    reason := body.reason
    details := body.details.getD []
    executionProgress := body.executionProgress
    startedAt := body.startedAt
    completedAt := body.completedAt
    resultSummary
    metrics := body.metrics.or body.performanceSummary
    performanceSummary := body.performanceSummary
    diagnostics
    failureCode := body.failureCode
    failureMessage := body.failureMessage }

theorem buildTransition_fields {runId : Text} {body : ReportBody} {transition : StatusTransition}
    (h : buildTransition runId body = .ok transition) :
    transition.runId = runId ∧ transition.newStatus = body.newStatus ∧
      transition.completedAt = body.completedAt := by
  obtain ⟨_, _, h⟩ := ok_of_bind h
  obtain ⟨_, _, h⟩ := ok_of_bind h
  cases h
  exact ⟨rfl, rfl, rfl⟩

section Endpoint

variable [PyRuntime] [PyNumerals] [PyDatetime]

omit [PyRuntime] [PyNumerals] [PyDatetime] in
/-- The suite of a run, if it names one. -/
def Lookups.suiteOf (lookups : Lookups) (run : RunEntity Text) :
    Except PyError (Option GxArtifactEnvelope) :=
  match run.suiteId with
  | none => .ok none
  | some suiteId => lookups.getSuiteById suiteId run.suiteVersion

omit [PyRuntime] [PyNumerals] [PyDatetime] in
/-- The rule of a run, if it names one. -/
def Lookups.ruleOf (lookups : Lookups) (run : RunEntity Text) :
    Except PyError (Option RuleEntity) :=
  match run.ruleId with
  | none => .ok none
  | some ruleId => lookups.getRuleById ruleId

/-- The event of a report, with the suite and the rule that it reads. -/
def buildReportEvent (lookups : Lookups) (now : ℕ) (run : RunEntity Text) (body : ReportBody) :
    Except PyError DqResultEvent := do
  let suite ← lookups.suiteOf run
  let rule ← lookups.ruleOf run
  buildDqResultEvent now run suite rule body

def persistDqResultEvent (lookups : Lookups) (now : ℕ) (run : RunEntity Text) (body : ReportBody) :
    Effect EventStore PyError ℕ :=
  if !body.newStatus.terminal then pure 0
  else do
    let event ← Effect.ofExcept (buildReportEvent lookups now run body)
    let _ ← EventStore.recordResultEvent event
    pure 1

omit [PyRuntime] [PyNumerals] [PyDatetime] in
/-- `persist_report_violations`: the count that a failed report states. Nothing is stored. -/
def persistReportViolations (body : ReportBody) : Json :=
  if body.newStatus ≠ .failed then .int 0
  else match body.details with
    | none | some [] => .int 0
    | some details => ((details.find? "violation_count").getD (.int 0)).orElse (.int 0)

omit [PyRuntime] [PyNumerals] [PyDatetime] in
/-- The handler of the result history. -/
def historyError (runId : Text) (exc : PyError) : ReportError :=
  if exc.className = "HTTPException" ∨ exc.severity ≠ .exception then .raised exc
  else .historyPersistenceFailed runId exc.className

omit [PyRuntime] [PyNumerals] [PyDatetime] in
def transitionError (runId : Text) (exc : PyError) : ReportError :=
  if isValueError exc then .runNotFound runId else .raised exc

variable {Store Time : Type} (repository : RunRepository Store Time)

def reportExecutionRun (lookups : Lookups) (moment : Moment) (historyId runId : Text)
    (body : ReportBody) : Effect (Api Store) ReportError (RunEntity Time) :=
  Effect.ofState fun api =>
    match buildTransition runId body with
    | .error exc => (.error (transitionError runId exc), api)
    | .ok transition =>
      match (repository.recordRunStatusTransition moment historyId transition).run api.runs with
      | (.error exc, runs) => (.error (transitionError runId exc), { api with runs })
      | (.ok updated, runs) =>
        match (persistDqResultEvent lookups moment.now (updated.texts repository.text) body).run
            api.events with
        | (.error exc, events) => (.error (historyError runId exc), { api with runs, events })
        | (.ok _, events) =>
          -- The count of the violations is computed and dropped.
          let _ := persistReportViolations body
          (.ok updated, { api with runs, events })

variable {lookups : Lookups} {moment : Moment} {historyId : Text} {body : ReportBody}

theorem runs_reportExecutionRun {runId : Text} {transition : StatusTransition}
    (h : buildTransition runId body = .ok transition) (api : Api Store) :
    ((reportExecutionRun repository lookups moment historyId runId body).run api).2.runs =
      ((repository.recordRunStatusTransition moment historyId transition).run api.runs).2 := by
  rw [reportExecutionRun, Effect.run_ofState, h]
  dsimp only
  split
  · rename_i hrun
    rw [hrun]
  · rename_i hrun
    rw [hrun]
    split <;> rfl

def eventsAfter (lookups : Lookups) (text : Time → Text) (now : ℕ) (body : ReportBody)
    (events : EventStore) : Except PyError (RunEntity Time) → EventStore
  | .error _ => events
  | .ok updated => ((persistDqResultEvent lookups now (updated.texts text) body).run events).2

/-- A report changes the events as the outcome of its transition has it. -/
theorem events_reportExecutionRun {runId : Text} {transition : StatusTransition}
    (h : buildTransition runId body = .ok transition) (api : Api Store) :
    ((reportExecutionRun repository lookups moment historyId runId body).run api).2.events =
      eventsAfter lookups repository.text moment.now body api.events
        ((repository.recordRunStatusTransition moment historyId transition).run api.runs).1 := by
  rw [reportExecutionRun, Effect.run_ofState, h]
  dsimp only
  split
  · rename_i hrun
    rw [hrun, eventsAfter]
  · rename_i hrun
    rw [hrun, eventsAfter]
    split
    · rename_i hevents
      rw [hevents]
    · rename_i hevents
      rw [hevents]

/-- A report that returns recorded its transition and its event. -/
theorem reportExecutionRun_ok {runId : Text} {api after : Api Store} {updated : RunEntity Time}
    (h : (reportExecutionRun repository lookups moment historyId runId body).run api =
      (.ok updated, after)) :
    ∃ transition count, buildTransition runId body = .ok transition ∧
      (repository.recordRunStatusTransition moment historyId transition).run api.runs =
        (.ok updated, after.runs) ∧
      (persistDqResultEvent lookups moment.now (updated.texts repository.text) body).run
        api.events = (.ok count, after.events) := by
  rw [reportExecutionRun, Effect.run_ofState] at h
  split at h
  · cases (Prod.mk.inj h).1
  · rename_i transition hbuild
    split at h
    · cases (Prod.mk.inj h).1
    · rename_i hrun
      split at h
      · cases (Prod.mk.inj h).1
      · rename_i count events hevents
        cases h
        exact ⟨transition, count, hbuild, hrun, hevents⟩

theorem reportExecutionRun_invalid {runId : Text} {exc : PyError}
    (h : buildTransition runId body = .error exc) (api : Api Store) :
    (reportExecutionRun repository lookups moment historyId runId body).run api =
      (.error (transitionError runId exc), api) := by
  rw [reportExecutionRun, Effect.run_ofState, h]

end Endpoint

end Runs

end DqMadeEasy
