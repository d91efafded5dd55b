import DqMadeEasy.Execution.PysparkExecutor

/-!
# Accounting of PySpark runs

What a run reports of its batches and suites, and when it reports at all: an error outside the
`try` blocks of a batch ends the run, and with it the results of every batch. The report of a run
that is not cut short is complete.
-/

namespace DqMadeEasy

namespace Execution

open Artifacts Worker

/-! ### Verdicts -/

theorem exists_payloadDiagnostics_iff {payload : Dict} :
    (∃ items, payloadDiagnostics payload = .ok items) ↔
      ((payload.get "diagnostics").truthy →
        ∃ items, payload.get "diagnostics" = .list items) := by
  rw [payloadDiagnostics, Json.orElse]
  generalize payload.get "diagnostics" = value
  by_cases htruthy : value.truthy = true
  · rw [if_pos htruthy]
    cases value <;> simp [htruthy]
  · rw [if_neg htruthy]
    simp [htruthy]

theorem exists_payloadResult_iff {payload : Dict} :
    (∃ entries, payloadResult payload = .ok entries) ↔
      ((payload.get "result").truthy → ∃ entries, payload.get "result" = .dict entries) := by
  rw [payloadResult, Json.orElse]
  generalize payload.get "result" = value
  by_cases htruthy : value.truthy = true
  · rw [if_pos htruthy]
    cases value <;> simp [htruthy]
  · rw [if_neg htruthy]
    simp [htruthy]

theorem exists_payloadFailure_iff {payload : Dict} :
    (∃ failure, payloadFailure payload = .ok failure) ↔
      (payload.get "executionFailure" ≠ .scalar .none →
        ∃ entries, payload.get "executionFailure" = .dict entries) := by
  rw [payloadFailure]
  cases payload.get "executionFailure" with
  | scalar value => cases value <;> simp
  | list items => simp
  | dict entries => simp

theorem executionError_kind (message : Text) (statusCode : ℤ) :
    (executionError message statusCode).kind = .executionError := by
  rw [executionError]
  split_ifs <;> rfl

theorem kind_of_payloadDiagnostics {payload : Dict} {exc : Raised}
    (h : payloadDiagnostics payload = .error exc) : exc.kind = .executionError := by
  rw [payloadDiagnostics] at h
  split at h
  · cases h
  · cases h
    exact executionError_kind _ _

theorem kind_of_payloadResult {payload : Dict} {exc : Raised}
    (h : payloadResult payload = .error exc) : exc.kind = .executionError := by
  rw [payloadResult] at h
  split at h
  · cases h
  · cases h
    exact executionError_kind _ _

theorem kind_of_payloadFailure {payload : Dict} {exc : Raised}
    (h : payloadFailure payload = .error exc) : exc.kind = .executionError := by
  rw [payloadFailure] at h
  split at h
  · cases h
  · cases h
  · cases h
    exact executionError_kind _ _

section Verdicts

variable [PyRuntime] [PyNumerals]

theorem kind_of_payloadStatus {payload : Dict} {exc : Raised}
    (h : payloadStatus payload = .error exc) : exc.kind = .executionError := by
  rw [payloadStatus] at h
  split at h
  · cases h
  · split at h
    · cases h
    · cases h
      exact executionError_kind _ _

/-- The runner judges a suite passed: its answer is a mapping whose `status`, or else `passed`, says
so, and whose parts are of their types. -/
structure JudgesPassed (payload : Dict) : Prop where
  status : statusText payload = "succeeded"
  diagnostics : (payload.get "diagnostics").truthy → ∃ items, payload.get "diagnostics" = .list items
  result : (payload.get "result").truthy → ∃ entries, payload.get "result" = .dict entries
  executionFailure : payload.get "executionFailure" ≠ .scalar .none →
    ∃ entries, payload.get "executionFailure" = .dict entries

theorem payloadStatus_succeeded_iff {payload : Dict} :
    payloadStatus payload = .ok .succeeded ↔ statusText payload = "succeeded" := by
  rw [payloadStatus]
  split
  · next h => simpa using h
  · next h =>
    split
    · simpa using h
    · simpa using h

/-- A refused answer is an exception of the executor. -/
theorem kind_of_coerceValidationPayload {answer : Json} {exc : Raised}
    (h : coerceValidationPayload answer = .error exc) : exc.kind = .executionError := by
  rw [coerceValidationPayload] at h
  split at h
  · cases h
    exact executionError_kind _ _
  · next payload _ =>
    rcases error_of_bind h with h | ⟨_, _, h⟩
    · exact kind_of_payloadStatus h
    rcases error_of_bind h with h | ⟨_, _, h⟩
    · exact kind_of_payloadDiagnostics h
    rcases error_of_bind h with h | ⟨_, _, h⟩
    · exact kind_of_payloadResult h
    rcases error_of_bind h with h | ⟨_, _, h⟩
    · exact kind_of_payloadFailure h
    · cases h

/-- The executor reads an answer as a success exactly when the runner judged the suite passed. -/
theorem coerceValidationPayload_succeeded_iff {answer : Json} :
    (∃ payload, coerceValidationPayload answer = .ok payload ∧ payload.status = .succeeded) ↔
      ∃ payload, answer = .dict payload ∧ JudgesPassed payload := by
  cases answer with
  | scalar value => simp [coerceValidationPayload, Json.asDict?]
  | list items => simp [coerceValidationPayload, Json.asDict?]
  | dict entries =>
    simp only [coerceValidationPayload, Json.asDict?, Json.dict.injEq, exists_eq_left']
    constructor
    · rintro ⟨payload, h, hstatus⟩
      obtain ⟨status, hs, h⟩ := ok_of_bind h
      obtain ⟨diagnostics, hd, h⟩ := ok_of_bind h
      obtain ⟨result, hr, h⟩ := ok_of_bind h
      obtain ⟨failure, hf, h⟩ := ok_of_bind h
      cases h
      cases hstatus
      exact ⟨payloadStatus_succeeded_iff.mp hs, exists_payloadDiagnostics_iff.mp ⟨_, hd⟩,
        exists_payloadResult_iff.mp ⟨_, hr⟩, exists_payloadFailure_iff.mp ⟨_, hf⟩⟩
    · rintro ⟨hstatus, hd, hr, hf⟩
      obtain ⟨diagnostics, hd⟩ := exists_payloadDiagnostics_iff.mpr hd
      obtain ⟨result, hr⟩ := exists_payloadResult_iff.mpr hr
      obtain ⟨failure, hf⟩ := exists_payloadFailure_iff.mpr hf
      rw [payloadStatus_succeeded_iff.mpr hstatus, hd, hr, hf]
      exact ⟨_, rfl, rfl⟩

end Verdicts

/-! ### Views -/

def HasShape (suite : GxArtifactEnvelope) : Prop :=
  ∃ contract shape, suite.executionContract = some contract ∧
    contract.executionShape = some shape ∧ shape.strip ∈ executionShapes

theorem none_not_mem_executionShapes : Text.strip "None" ∉ executionShapes := by decide

theorem single_mem_executionShapes : Text.strip "single_object" ∈ executionShapes := by
  decide

/-- The text that a view gets of a contract is an allowed shape when the contract names one. -/
theorem hasShape_iff {suite : GxArtifactEnvelope} {contract : GxExecutionContract}
    (h : suite.executionContract = some contract) :
    HasShape suite ↔ (contract.executionShape.getD "None").strip ∈ executionShapes := by
  constructor
  · rintro ⟨contract', shape, hcontract, hshape, hmem⟩
    cases h.symm.trans hcontract
    rw [hshape]
    exact hmem
  · intro hmem
    cases hshape : contract.executionShape with
    | none =>
      rw [hshape] at hmem
      exact absurd hmem none_not_mem_executionShapes
    | some shape =>
      rw [hshape] at hmem
      exact ⟨contract, shape, h, hshape, hmem⟩

def AllDicts (items : List Json) : Prop := ∀ item ∈ items, ∃ entries, item = .dict entries

theorem allDicts_singleton (entries : Dict) : AllDicts [.dict entries] := by
  intro item hitem
  exact ⟨entries, List.mem_singleton.mp hitem⟩

theorem exists_viewDiagnostics_iff {items : List Json} :
    (∃ diagnostics, viewDiagnostics items = .ok diagnostics) ↔ AllDicts items := by
  rw [viewDiagnostics, exists_mapM_iff]
  refine forall₂_congr fun item _ => ?_
  cases item <;> simp

theorem viewDiagnostics_map (diagnostics : List Dict) :
    viewDiagnostics (diagnostics.map .dict) = .ok diagnostics := by
  induction diagnostics with
  | nil => rfl
  | cons d ds ih =>
    rw [viewDiagnostics] at ih ⊢
    rw [List.map_cons, List.mapM_cons, ih]
    rfl

variable {suite : GxArtifactEnvelope} {dataObjectVersionId shape : Text} {status : ExecutionStatus}
  {items : List Json} {result : Dict} {executionFailure : Option Dict}

theorem suiteResultView_ok {r : SuiteResult}
    (h : suiteResultView suite dataObjectVersionId shape status items result executionFailure =
      .ok r) :
    shape.strip ∈ executionShapes ∧ viewDiagnostics items = .ok r.diagnostics ∧
      r.suiteId = suite.suiteId.strip ∧ r.suiteVersion = suite.suiteVersion ∧ r.status = status ∧
      r.result = result := by
  rw [suiteResultView] at h
  split at h
  · cases h
  · next hshape =>
    obtain ⟨diagnostics, hdiagnostics, h⟩ := ok_of_bind h
    cases h
    exact ⟨not_not.mp hshape, hdiagnostics, rfl, rfl, rfl, rfl⟩

theorem exists_suiteResultView_iff :
    (∃ r, suiteResultView suite dataObjectVersionId shape status items result executionFailure =
      .ok r) ↔ shape.strip ∈ executionShapes ∧ AllDicts items := by
  constructor
  · rintro ⟨r, h⟩
    obtain ⟨hshape, hdiagnostics, -⟩ := suiteResultView_ok h
    exact ⟨hshape, exists_viewDiagnostics_iff.mp ⟨_, hdiagnostics⟩⟩
  · rintro ⟨hshape, hitems⟩
    obtain ⟨diagnostics, hdiagnostics⟩ := exists_viewDiagnostics_iff.mpr hitems
    rw [suiteResultView, if_neg (not_not.mpr hshape)]
    simp only [hdiagnostics]
    exact ⟨_, rfl⟩

/-! ### Suites -/

namespace Executor

variable {Session Handle Asset Payload : Type} {E : Executor Session Handle Asset Payload}
variable {batch : Batch Payload} {payload : Payload} {failure : Dict} {turn : ℕ} {session : Session}

theorem exists_failSuite_iff :
    (∃ r, E.failSuite batch failure payload = .ok r) ↔ ∃ suite, E.coerceSuite payload = .ok suite ∧
      (suite.executionContract = none ∨ HasShape suite) := by
  rw [failSuite]
  cases hsuite : E.coerceSuite payload with
  | error exc => simp
  | ok suite =>
    simp only [ok_bind, Except.ok.injEq, exists_eq_left']
    cases hcontract : suite.executionContract with
    | none =>
      simpa [exists_suiteResultView_iff, allDicts_singleton] using single_mem_executionShapes
    | some contract =>
      simp [exists_suiteResultView_iff, allDicts_singleton, hasShape_iff hcontract]

theorem failSuite_ok {r : SuiteResult} (h : E.failSuite batch failure payload = .ok r) :
    (∃ suite, E.coerceSuite payload = .ok suite ∧ r.suiteId = suite.suiteId.strip ∧
      r.suiteVersion = suite.suiteVersion) ∧ r.status = .failed ∧ r.diagnostics = [failure] ∧
      r.result = [] := by
  rw [failSuite] at h
  obtain ⟨suite, hsuite, h⟩ := ok_of_bind h
  obtain ⟨-, hdiagnostics, hid, hversion, hstatus, hresult⟩ := suiteResultView_ok h
  have hview := viewDiagnostics_map [failure]
  rw [List.map_singleton, hdiagnostics] at hview
  exact ⟨⟨suite, hsuite, hid, hversion⟩, hstatus, Except.ok.inj hview, hresult⟩

theorem createSparkSession_ok_iff :
    E.createSparkSession turn = .ok session ↔ E.sparkSessionFactory turn = .ok (some session) := by
  rw [createSparkSession]
  cases E.sparkSessionFactory turn with
  | ok found => cases found <;> simp
  | error exc =>
    simp only [reduceCtorEq, iff_false]
    cases exc.kind <;> simp

theorem stopSession_ok_iff :
    E.stopSession turn session = .ok () ↔
      (E.manageSparkSession → ∀ outcome, E.stop turn session = some outcome → outcome = .ok ()) := by
  rw [stopSession]
  cases E.manageSparkSession with
  | false => simp
  | true =>
    cases E.stop turn session with
    | none => simp
    | some outcome => simp

variable [PyRuntime] [PyNumerals]

/-- An answer of the runner that the executor can report: no exception but an `Exception`, and no
accepted diagnostics that are not dictionaries. -/
def Reportable (answer : Except Raised Json) : Prop :=
  match answer with
  | .error exc => exc.kind ≠ .baseException
  | .ok value => ∀ payload, coerceValidationPayload value = .ok payload →
      AllDicts payload.diagnostics

variable {run : ℕ → ℕ → Session → Handle → GxArtifactEnvelope → Text → Except Raised Json}
  {position : ℕ} {handle : Handle} {suite : GxArtifactEnvelope}
  {dataObjectVersionId correlationId : Text}

theorem validateSuite_eq (hrun : E.validationRunner = some run) :
    E.validateSuite turn position session handle suite dataObjectVersionId correlationId =
      match run turn position session handle suite correlationId >>= coerceValidationPayload with
      | .ok payload => .ok payload
      | .error exc =>
        if exc.kind = .baseException then .error exc
        else .ok ⟨.failed, [.dict (failureDiagnostic exc correlationId dataObjectVersionId)], [],
          some (failureDiagnostic exc correlationId dataObjectVersionId)⟩ := by
  rewrite [validateSuite, hrun]
  rfl

theorem exists_validateSuite_iff (hrun : E.validationRunner = some run) :
    (∃ answer, E.validateSuite turn position session handle suite dataObjectVersionId
      correlationId = .ok answer ∧ AllDicts answer.diagnostics) ↔
      Reportable (run turn position session handle suite correlationId) := by
  rw [validateSuite_eq hrun]
  cases hanswer : run turn position session handle suite correlationId with
  | error exc =>
    simp only [error_bind, Reportable]
    split
    · next hkind => simp [hkind]
    · next hkind => simp [hkind, allDicts_singleton]
  | ok value =>
    simp only [ok_bind, Reportable]
    cases hvalue : coerceValidationPayload value with
    | ok payload => simp
    | error exc =>
      simp [kind_of_coerceValidationPayload hvalue, allDicts_singleton]

/-- The read status is a success exactly when the runner judged the suite passed. -/
theorem validateSuite_succeeded_iff (hrun : E.validationRunner = some run)
    {answer : ValidationPayload}
    (h : E.validateSuite turn position session handle suite dataObjectVersionId correlationId =
      .ok answer) :
    answer.status = .succeeded ↔ ∃ payload,
      run turn position session handle suite correlationId = .ok (.dict payload) ∧
        JudgesPassed payload := by
  rw [validateSuite_eq hrun] at h
  cases hanswer : run turn position session handle suite correlationId with
  | error exc =>
    rw [hanswer] at h
    simp only [error_bind] at h
    split at h
    · cases h
    · cases h
      simp
  | ok value =>
    rw [hanswer] at h
    simp only [ok_bind] at h
    have hsucceeded := @coerceValidationPayload_succeeded_iff _ _ value
    cases hvalue : coerceValidationPayload value with
    | ok payload =>
      rw [hvalue] at h hsucceeded
      cases h
      simpa using hsucceeded
    | error exc =>
      rw [hvalue] at h hsucceeded
      simp only [kind_of_coerceValidationPayload hvalue] at h
      cases h
      simpa using hsucceeded

/-! ### Accounts -/

variable (E) (correlationId) in
/-- The runner is asked about a suite, on the source of its batch, and judges it passed. -/
def JudgedPassed (turn : ℕ) (batch : Batch Payload) (payload : Payload) (position : ℕ) : Prop :=
  ∃ session handle suite run answer, E.createSparkSession turn = .ok session ∧
    E.loadBatchSource turn session batch correlationId = .ok handle ∧
    E.coerceSuite payload = .ok suite ∧ E.validationRunner = some run ∧
    run turn position session handle suite correlationId = .ok (.dict answer) ∧
    JudgesPassed answer

/-- The diagnostics of the failed suites, each suite's once. A failure that the suites share, that
of the source they share, stands once for all of them. -/
inductive Contributed : List SuiteResult → List Dict → Prop
  | each (results : List SuiteResult) :
    Contributed results
      (results.flatMap fun r => if r.status = .failed then r.diagnostics else [])
  | shared {results : List SuiteResult} {failure : Dict}
    (h : ∀ r ∈ results, r.status = .failed ∧ r.diagnostics = [failure]) :
    Contributed results [failure]

variable (E) (correlationId) in
/-- The result of a suite is that suite's, and a success exactly when the runner judged it passed. -/
structure SuiteAccounted (turn : ℕ) (batch : Batch Payload) (item : Payload × ℕ)
    (r : SuiteResult) : Prop where
  suite : ∃ suite, E.coerceSuite item.1 = .ok suite ∧ r.suiteId = suite.suiteId.strip ∧
    r.suiteVersion = suite.suiteVersion
  status : r.status = .succeeded ↔ E.JudgedPassed correlationId turn batch item.1 item.2

variable (E) (correlationId) in
/-- The result of a batch holds one result for each of its suites, in order. -/
structure BatchAccounted (item : Batch Payload × ℕ) (r : BatchResult) : Prop where
  dataObjectVersionId : r.dataObjectVersionId = item.1.dataObjectVersionId
  suites : List.Forall₂ (E.SuiteAccounted correlationId item.2 item.1) item.1.suites.zipIdx
    r.suiteResults
  suiteCount : r.suiteCount = item.1.suites.length
  status : r.status = .succeeded ↔ ∀ suite ∈ r.suiteResults, suite.status = .succeeded
  diagnostics : Contributed r.suiteResults r.diagnostics

variable (E) (correlationId) in
/-- The result of a run holds one result for each of its batches, in order. -/
structure RunAccounted (batches : List (Batch Payload)) (r : RunResult) : Prop where
  results : List.Forall₂ (E.BatchAccounted correlationId) batches.zipIdx r.batchResults
  batchCount : r.batchCount = batches.length
  status : r.status = .succeeded ↔ ∀ batch ∈ r.batchResults, batch.status = .succeeded
  diagnostics : r.diagnostics = r.batchResults.flatMap BatchResult.diagnostics

/-! ### What cuts a run short -/

variable (E) (correlationId) in
/-- Nothing of a suite, on the source of its batch, ends the run: it is an envelope whose contract
names an allowed shape, and the runner's answer can be reported. -/
def SuiteUninterrupted (turn : ℕ) (session : Session) (handle : Handle) (payload : Payload)
    (position : ℕ) : Prop :=
  ∃ suite, E.coerceSuite payload = .ok suite ∧ HasShape suite ∧
    ∀ run, E.validationRunner = some run →
      Reportable (run turn position session handle suite correlationId)

variable (E) (correlationId) in
/-- Nothing of a batch ends the run: it has a session that can be stopped, its source's metrics can
be read and none of its suites ends the run. Where the source cannot be loaded, that is by an
`Exception`, and the suites are envelopes whose contract, if there is one, names an allowed shape. -/
def Uninterrupted (turn : ℕ) (batch : Batch Payload) : Prop :=
  ∃ session, E.sparkSessionFactory turn = .ok (some session) ∧
    (E.manageSparkSession → ∀ outcome, E.stop turn session = some outcome → outcome = .ok ()) ∧
    match E.loadBatchSource turn session batch correlationId with
    | .error exc => exc.kind ≠ .baseException ∧ ∀ payload ∈ batch.suites,
        ∃ suite, E.coerceSuite payload = .ok suite ∧
          (suite.executionContract = none ∨ HasShape suite)
    | .ok handle => (∃ metrics, extractScanMetrics (E.entries handle) = .ok metrics) ∧
        ∀ item ∈ batch.suites.zipIdx,
          E.SuiteUninterrupted correlationId turn session handle item.1 item.2

theorem exists_executeSuite_iff (hrun : E.validationRunner = some run) :
    (∃ r, E.executeSuite turn session handle batch correlationId payload position = .ok r) ↔
      E.SuiteUninterrupted correlationId turn session handle payload position := by
  rw [executeSuite, SuiteUninterrupted]
  cases hsuite : E.coerceSuite payload with
  | error exc => simp
  | ok suite =>
    simp only [ok_bind, Except.ok.injEq, exists_eq_left', hrun, Option.some.injEq,
      forall_eq']
    rw [← exists_validateSuite_iff hrun]
    constructor
    · rintro ⟨r, h⟩
      obtain ⟨answer, hanswer, h⟩ := ok_of_bind h
      cases hcontract : suite.executionContract with
      | none =>
        rw [hcontract] at h
        cases h
      | some contract =>
        rw [hcontract] at h
        obtain ⟨hshape, hitems⟩ := exists_suiteResultView_iff.mp ⟨r, h⟩
        exact ⟨(hasShape_iff hcontract).mpr hshape, answer, hanswer, hitems⟩
    · rintro ⟨hshape, answer, hanswer, hitems⟩
      obtain ⟨contract, _, hcontract, -⟩ := id hshape
      rw [hanswer, ok_bind, hcontract]
      exact exists_suiteResultView_iff.mpr ⟨(hasShape_iff hcontract).mp hshape, hitems⟩

theorem executeSuite_ok {r : SuiteResult}
    (h : E.executeSuite turn session handle batch correlationId payload position = .ok r) :
    ∃ suite answer, E.coerceSuite payload = .ok suite ∧
      E.validateSuite turn position session handle suite batch.dataObjectVersionId correlationId =
        .ok answer ∧ r.suiteId = suite.suiteId.strip ∧ r.suiteVersion = suite.suiteVersion ∧
      r.status = answer.status ∧ viewDiagnostics answer.diagnostics = .ok r.diagnostics ∧
      r.result = answer.result := by
  rw [executeSuite] at h
  obtain ⟨suite, hsuite, h⟩ := ok_of_bind h
  obtain ⟨answer, hanswer, h⟩ := ok_of_bind h
  cases hcontract : suite.executionContract with
  | none =>
    rw [hcontract] at h
    cases h
  | some contract =>
    rw [hcontract] at h
    obtain ⟨-, hdiagnostics, hid, hversion, hstatus, hresult⟩ := suiteResultView_ok h
    exact ⟨suite, answer, hsuite, hanswer, hid, hversion, hstatus, hdiagnostics, hresult⟩

/-! ### Batches -/

variable (hrun : E.validationRunner = some run)

include hrun in
/-- A suite of a batch with a source is accounted for. -/
theorem accounted_of_executeSuite {r : SuiteResult}
    (hsession : E.createSparkSession turn = .ok session)
    (hload : E.loadBatchSource turn session batch correlationId = .ok handle)
    (h : E.executeSuite turn session handle batch correlationId payload position = .ok r) :
    E.SuiteAccounted correlationId turn batch (payload, position) r := by
  obtain ⟨suite, answer, hsuite, hanswer, hid, hversion, hstatus, -, -⟩ := executeSuite_ok h
  refine ⟨⟨suite, hsuite, hid, hversion⟩, ?_⟩
  rw [hstatus, validateSuite_succeeded_iff hrun hanswer]
  constructor
  · rintro ⟨value, hvalue, hpassed⟩
    exact ⟨session, handle, suite, run, value, hsession, hload, hsuite, hrun, hvalue, hpassed⟩
  · rintro ⟨session', handle', suite', run', value, hsession', hload', hsuite', hrun', hvalue,
      hpassed⟩
    cases hsession.symm.trans hsession'
    cases hload.symm.trans hload'
    cases hsuite.symm.trans hsuite'
    cases hrun.symm.trans hrun'
    exact ⟨value, hvalue, hpassed⟩

theorem accounted_of_failSuite {r : SuiteResult} {exc : Raised}
    (hsession : E.createSparkSession turn = .ok session)
    (hload : E.loadBatchSource turn session batch correlationId = .error exc)
    (h : E.failSuite batch failure payload = .ok r) :
    E.SuiteAccounted correlationId turn batch (payload, position) r := by
  obtain ⟨hsuite, hstatus, -⟩ := failSuite_ok h
  refine ⟨hsuite, ?_⟩
  rw [hstatus]
  constructor
  · rintro ⟨⟩
  rintro ⟨session', handle', suite', run', value, hsession', hload', -⟩
  cases hsession.symm.trans hsession'
  cases hload.symm.trans hload'

/-- The loop over the suites of a batch is a traversal. -/
theorem executeSuites_eq :
    batch.suites.zipIdx.foldlM
      (fun ((suiteResults, diagnostics) : List SuiteResult × List Dict)
          ((payload, position) : Payload × ℕ) => do
        let result ← E.executeSuite turn session handle batch correlationId payload position
        return (suiteResults ++ [result],
          diagnostics ++ if result.status = .failed then result.diagnostics else []))
      ([], []) =
      (batch.suites.zipIdx.mapM fun item =>
        E.executeSuite turn session handle batch correlationId item.1 item.2).map fun results =>
        (results, results.flatMap fun r => if r.status = .failed then r.diagnostics else []) := by
  have hgather := foldlM_gather
    (fun item : Payload × ℕ =>
      E.executeSuite turn session handle batch correlationId item.1 item.2)
    (fun r => if r.status = .failed then r.diagnostics else []) batch.suites.zipIdx [] []
  simpa only [List.nil_append] using hgather

include hrun in
theorem exists_executeBatch_iff :
    (∃ r, E.executeBatch turn session batch correlationId = .ok r) ↔
      match E.loadBatchSource turn session batch correlationId with
      | .error exc => exc.kind ≠ .baseException ∧ ∀ payload ∈ batch.suites,
          ∃ suite, E.coerceSuite payload = .ok suite ∧
            (suite.executionContract = none ∨ HasShape suite)
      | .ok handle => (∃ metrics, extractScanMetrics (E.entries handle) = .ok metrics) ∧
          ∀ item ∈ batch.suites.zipIdx,
            E.SuiteUninterrupted correlationId turn session handle item.1 item.2 := by
  rw [executeBatch]
  cases E.loadBatchSource turn session batch correlationId with
  | error exc =>
    dsimp only
    split
    · next hkind => simp [hkind]
    · next hkind =>
      refine exists_bind_ok_iff.trans ?_
      simp only [exists_mapM_iff, exists_failSuite_iff, hkind, ne_eq, not_false_eq_true, true_and]
  | ok handle =>
    dsimp only
    rw [executeSuites_eq]
    cases extractScanMetrics (E.entries handle) with
    | error exc => simp
    | ok metrics =>
      rw [ok_bind]
      refine exists_bind_ok_iff.trans ?_
      simp only [exists_map_iff, exists_mapM_iff, exists_executeSuite_iff hrun, Except.ok.injEq,
        exists_eq', true_and]

include hrun in
theorem exists_runBatch_iff :
    (∃ r, E.runBatch correlationId batch turn = .ok r) ↔
      E.Uninterrupted correlationId turn batch := by
  rw [Uninterrupted]
  constructor
  · rintro ⟨r, h⟩
    obtain ⟨session, hsession, h⟩ := ok_of_bind h
    obtain ⟨_, hstop, h⟩ := ok_of_bind h
    exact ⟨session, createSparkSession_ok_iff.mp hsession, stopSession_ok_iff.mp hstop,
      (exists_executeBatch_iff hrun).mp ⟨r, h⟩⟩
  · rintro ⟨session, hsession, hstop, hbatch⟩
    obtain ⟨r, h⟩ := (exists_executeBatch_iff hrun).mpr hbatch
    refine ⟨r, ?_⟩
    rw [runBatch, createSparkSession_ok_iff.mpr hsession, ok_bind, stopSession_ok_iff.mpr hstop]
    exact h

include hrun in
/-- The result of a batch that is executed accounts for its suites. -/
theorem accounted_of_executeBatch {r : BatchResult}
    (hsession : E.createSparkSession turn = .ok session)
    (h : E.executeBatch turn session batch correlationId = .ok r) :
    E.BatchAccounted correlationId (batch, turn) r := by
  rw [executeBatch] at h
  cases hload : E.loadBatchSource turn session batch correlationId with
  | error exc =>
    rw [hload] at h
    dsimp only at h
    split at h
    · cases h
    · obtain ⟨results, hresults, h⟩ := ok_of_bind h
      cases h
      have hsuites := mapM_ok hresults
      refine ⟨rfl, ?_, hsuites.length_eq.symm, ?_, .shared ?_⟩
      · rw [← List.zipIdx_map_fst 0 batch.suites, List.forall₂_map_left_iff] at hsuites
        exact hsuites.imp fun item r h => accounted_of_failSuite hsession hload h
      · constructor
        · rintro ⟨⟩
        · intro h
          obtain ⟨r, hr, hfirst⟩ := mapM_mem hresults (List.head_mem batch.suites_ne)
          cases (h r hr).symm.trans (failSuite_ok hfirst).2.1
      · intro r hr
        obtain ⟨payload, _, h⟩ := mem_of_mapM hresults hr
        obtain ⟨-, hstatus, hdiagnostics, -⟩ := failSuite_ok h
        exact ⟨hstatus, hdiagnostics⟩
  | ok handle =>
    rw [hload] at h
    dsimp only at h
    rw [executeSuites_eq] at h
    obtain ⟨metrics, -, h⟩ := ok_of_bind h
    obtain ⟨found, hfound, h⟩ := ok_of_bind h
    cases h
    obtain ⟨results, hresults, rfl⟩ := ok_of_map hfound
    have hsuites := mapM_ok hresults
    refine ⟨rfl, ?_, ?_, ?_, .each _⟩
    · exact hsuites.imp fun item r h => accounted_of_executeSuite hrun hsession hload h
    · simpa using hsuites.length_eq.symm
    · simp [statusOf_eq_succeeded_iff]

include hrun in
theorem accounted_of_runBatch {r : BatchResult}
    (h : E.runBatch correlationId batch turn = .ok r) :
    E.BatchAccounted correlationId (batch, turn) r := by
  obtain ⟨session, hsession, h⟩ := ok_of_bind h
  obtain ⟨_, _, h⟩ := ok_of_bind h
  exact accounted_of_executeBatch hrun hsession h

/-! ### Runs -/

theorem runner_of_acceptPlan {plan : PlanPayload Payload} {batches : List (Batch Payload)}
    (h : E.acceptPlan plan = .ok batches) : ∃ run, E.validationRunner = some run := by
  obtain ⟨batches', -, h⟩ := ok_of_bind h
  obtain ⟨_, hpreflight, -⟩ := ok_of_bind h
  rw [preflightDependencies] at hpreflight
  cases hrunner : E.validationRunner with
  | none =>
    rw [hrunner] at hpreflight
    cases hpreflight
  | some run => exact ⟨run, rfl⟩

section Plans

variable {runId : Text} {plan : PlanPayload Payload} {batches : List (Batch Payload)}
variable (haccept : E.acceptPlan plan = .ok batches)
include haccept

theorem exists_executePlan_iff (runId : Text) :
    (∃ report, E.executePlan runId correlationId plan = .ok report) ↔
      ∀ item ∈ batches.zipIdx, E.Uninterrupted correlationId item.2 item.1 := by
  obtain ⟨run, hrun⟩ := runner_of_acceptPlan haccept
  rw [executePlan, haccept, ok_bind]
  refine exists_bind_ok_iff.trans ?_
  simp only [exists_mapM_iff, exists_runBatch_iff hrun]

theorem accounted_of_executePlan {report : RunResult}
    (h : E.executePlan runId correlationId plan = .ok report) :
    E.RunAccounted correlationId batches report := by
  obtain ⟨run, hrun⟩ := runner_of_acceptPlan haccept
  rw [executePlan, haccept, ok_bind] at h
  obtain ⟨results, hresults, h⟩ := ok_of_bind h
  cases h
  have hbatches := mapM_ok hresults
  refine ⟨?_, ?_, ?_, rfl⟩
  · exact hbatches.imp fun item r h => accounted_of_runBatch hrun h
  · simpa using hbatches.length_eq.symm
  · simp [statusOf_eq_succeeded_iff]

end Plans

/-- An accepted plan has a complete report exactly when none of its batches ends the run. -/
theorem executePlan_accounted_iff (E : Executor Session Handle Asset Payload)
    (runId correlationId : Text) (plan : PlanPayload Payload) (batches : List (Batch Payload))
    (haccept : E.acceptPlan plan = .ok batches) :
    (∃ report, E.executePlan runId correlationId plan = .ok report ∧
      E.RunAccounted correlationId batches report) ↔
      ∀ item ∈ batches.zipIdx, E.Uninterrupted correlationId item.2 item.1 := by
  rw [← exists_executePlan_iff haccept runId]
  constructor
  · rintro ⟨report, h, -⟩
    exact ⟨report, h⟩
  · rintro ⟨report, h⟩
    exact ⟨report, h, accounted_of_executePlan haccept h⟩

end Executor

/-! ### Examples -/

section Example

local instance sampleRuntimeExecution : PyRuntime := .ascii (fun _ => .nan) (fun _ => [])

local instance sampleNumeralsExecution : PyNumerals := ⟨fun _ => none, fun _ => none, id⟩

/-- A contract for the PySpark engine. -/
def pysparkContract (executionShape : String) (outputLocation : Option Text) :
    GxExecutionContract where
  engineType := none
  engineTarget := some "pyspark"
  executionShape := some executionShape.toList
  traceability := none
  sourceMaterialization :=
    outputLocation.map fun location => ⟨none, none, some location, none, [], [], none, none, []⟩
  resolvedDataObjectVersionId := none
  resolvedDataDeliveryId := none
  resolvedDeliveryLocation := none
  deliveryResolutionMode := none
  selectionMode := none
  scopeSelector := []
  suiteRefs := []
  suiteCount := none
  batchCount := none
  extra := []

/-- A suite with a contract or without one. -/
def plannedSuite (suiteId : String) (executionContract : Option GxExecutionContract) :
    GxArtifactEnvelope where
  suiteId := suiteId.toList
  suiteVersion := 1
  suiteVersion_pos := Nat.one_pos
  artifactVersion := "v1"
  assignmentScope := ⟨none, none, none, []⟩
  resolvedExecutionScope := ⟨["dov-1"]⟩
  gxSuite := []
  distinctKeys := Json.distinctKeys_nil
  compiledFrom := ⟨[], [], []⟩
  executionHints := ⟨none, [], [], none, none⟩
  executionContract := executionContract
  savedBy := none
  sourcePipeline := none
  status := none
  artifactHash := none

/-- An executor whose loaders return the name of the source, and whose runner passes the suites that
it finds on a source it knows. -/
def namingExecutor (known : Text → Bool) : Executor Unit Text Unit GxArtifactEnvelope where
  coerceSuite := .ok
  entries _ := none
  sourceLoader := some fun _ _ dataObjectVersionId => .ok dataObjectVersionId
  materializedSourceLoader := some fun _ _ location => .ok (location.getD [])
  sourceAdapter := none
  validationRunner := some fun _ _ _ source _ _ =>
    .ok (.dict [entry "passed" (.scalar (.bool (known source)))])
  sparkSessionFactory _ := .ok (some ())
  stop _ _ := none
  manageSparkSession := true

def oneBatch (suites : List GxArtifactEnvelope) : PlanPayload GxArtifactEnvelope where
  batches := some [.mapping (.text "dov-1") (some suites) .null]

/-- Two suites on one target, the second perhaps without a contract. -/
def pairPlan (executionContract : Option GxExecutionContract) : PlanPayload GxArtifactEnvelope :=
  oneBatch [plannedSuite "a" (some (pysparkContract "single_object" none)),
    plannedSuite "b" executionContract]

/-- The second suite of the batch has no contract. -/
theorem executePlan_accounted_counterexample :
    ¬∀ (E : Executor Unit Text Unit GxArtifactEnvelope) (runId correlationId : Text)
      (plan : PlanPayload GxArtifactEnvelope) (batches : List (Batch GxArtifactEnvelope)),
      E.acceptPlan plan = .ok batches →
        ∃ report, E.executePlan runId correlationId plan = .ok report ∧
          E.RunAccounted correlationId batches report := by
  intro h
  obtain ⟨report, hreport, -⟩ := h (namingExecutor fun _ => true) [] [] (pairPlan none) _ rfl
  have hstopped : ((namingExecutor fun _ => true).executePlan [] [] (pairPlan none)).isOk =
      false := by decide +kernel
  rw [hreport] at hstopped
  cases hstopped

/-- A batch of two suites with contracts is accounted for. -/
theorem executePlan_accounted_pair :
    ∃ batches, (namingExecutor fun _ => true).acceptPlan
        (pairPlan (some (pysparkContract "single_object" none))) = .ok batches ∧
      ∃ report, (namingExecutor fun _ => true).executePlan [] []
          (pairPlan (some (pysparkContract "single_object" none))) = .ok report ∧
        (namingExecutor fun _ => true).RunAccounted [] batches report := by
  refine ⟨_, rfl, (Executor.executePlan_accounted_iff _ [] [] _ _ rfl).mpr ?_⟩
  intro item hitem
  cases List.mem_singleton.mp hitem
  refine ⟨(), rfl, by rintro _ _ ⟨⟩, ⟨_, rfl⟩, ?_⟩
  have hsuite : ∀ (suiteId : String) (position : ℕ),
      (namingExecutor fun _ => true).SuiteUninterrupted [] 0 () "dov-1"
        (plannedSuite suiteId (some (pysparkContract "single_object" none))) position := by
    intro suiteId position
    refine ⟨_, rfl, ⟨_, _, rfl, rfl, by decide⟩, ?_⟩
    rintro _ ⟨⟩ payload hpayload
    cases hpayload
    exact fun _ h => nomatch h
  intro item hitem
  rcases List.mem_cons.mp hitem with rfl | hitem
  · exact hsuite "a" 0
  · cases List.mem_singleton.mp hitem
    exact hsuite "b" 1

end Example

end Execution

end DqMadeEasy
