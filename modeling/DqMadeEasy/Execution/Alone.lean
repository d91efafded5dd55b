import DqMadeEasy.Execution.Accounting

/-!
# A suite in its batch and on its own

With surroundings that answer the same whenever they are asked, the result of a suite in a batch is
compared with the result of the plan that holds only that suite. A batch loads one source, that of
its first suite, so the two agree for every runner exactly when the suites of a batch share the
source that each of them names.
-/

namespace DqMadeEasy

namespace Execution

open Artifacts Worker

def SuiteResult.verdict (r : SuiteResult) : ExecutionStatus × List Dict × Dict :=
  (r.status, r.diagnostics, r.result)

def RunResult.suiteResult? (report : RunResult) (turn position : ℕ) : Option SuiteResult :=
  report.batchResults[turn]?.bind fun batch => batch.suiteResults[position]?

namespace Batch

variable {Payload : Type}

/-- The batch of the same target with one suite only. -/
def only (batch : Batch Payload) (payload : Payload) : Batch Payload :=
  { batch with suites := [payload], suites_ne := List.cons_ne_nil _ _ }

def alone (batch : Batch Payload) (payload : Payload) : PlanPayload Payload where
  batches := some [.mapping (.scalar (.str batch.dataObjectVersionId)) (some [payload])
    (batch.incrementalSelection.elim .null .dict)]

theorem coerceBatches_alone [PyRuntime] [PyNumerals] (batch : Batch Payload) (payload : Payload) :
    coerceBatches (batch.alone payload) = .ok [batch.only payload] := by
  obtain ⟨dataObjectVersionId, stripped, named, selection, suites, suites_ne⟩ := batch
  have hcoerce : coerceBatch (.mapping (.scalar (.str dataObjectVersionId)) (some [payload])
      (selection.elim .null .dict)) = .ok (Batch.only
        ⟨dataObjectVersionId, stripped, named, selection, suites, suites_ne⟩ payload) := by
    rw [coerceBatch, dif_neg (by simpa [stripped] using named), dif_neg (by simp)]
    cases selection <;> simp [Batch.only, stripped, Json.null]
  rw [coerceBatches, alone]
  simp only [List.mapM_cons, List.mapM_nil, hcoerce]
  rfl

end Batch

namespace Executor

variable {Session Handle Asset Payload : Type}

/-! ### Deterministic surroundings -/

/-- The adapter that answers every time as this one does first. -/
def adapterAtFirst (adapter : SourceAdapter Session Handle Asset) :
    SourceAdapter Session Handle Asset where
  supportsExecutionShape _ := adapter.supportsExecutionShape 0
  resolveAsset _ := adapter.resolveAsset 0
  loadDataframe _ := adapter.loadDataframe 0
  materializePrimaryKey _ := adapter.materializePrimaryKey 0
  emitValidationTarget _ := adapter.emitValidationTarget 0

variable (E : Executor Session Handle Asset Payload)

/-- The executor whose surroundings answer every time as those of this one do first. -/
def atFirst : Executor Session Handle Asset Payload where
  coerceSuite := E.coerceSuite
  entries := E.entries
  sourceLoader := E.sourceLoader.map fun load _ => load 0
  materializedSourceLoader := E.materializedSourceLoader.map fun load _ => load 0
  sourceAdapter := E.sourceAdapter.map adapterAtFirst
  validationRunner := E.validationRunner.map fun run _ _ => run 0 0
  sparkSessionFactory _ := E.sparkSessionFactory 0
  stop _ := E.stop 0
  manageSparkSession := E.manageSparkSession

/-- Loaders, adapter, runner and session factory do not depend on when they are asked. -/
def Deterministic : Prop := E = E.atFirst

def withRunner (run : Session → Handle → GxArtifactEnvelope → Text → Except Raised Json) :
    Executor Session Handle Asset Payload :=
  { E with validationRunner := some fun _ _ => run }

section Deterministic

variable {E}

theorem loadBatchSource_atFirst (turn : ℕ) :
    E.atFirst.loadBatchSource turn = E.atFirst.loadBatchSource 0 := by
  obtain ⟨_, _, sourceLoader, materializedSourceLoader, sourceAdapter, _, _, _, _⟩ := E
  cases sourceLoader <;> cases materializedSourceLoader <;> cases sourceAdapter <;> rfl

variable (hdet : E.Deterministic) (turn : ℕ)
include hdet

theorem Deterministic.loadBatchSource : E.loadBatchSource turn = E.loadBatchSource 0 := by
  rw [hdet, loadBatchSource_atFirst]

theorem Deterministic.sparkSessionFactory :
    E.sparkSessionFactory turn = E.sparkSessionFactory 0 := by
  rw [hdet]
  rfl

theorem Deterministic.stop : E.stop turn = E.stop 0 := by
  rw [hdet]
  rfl

end Deterministic

/-! ### Verdicts -/

theorem viewDiagnostics_eq {items : List Json} {diagnostics : List Dict}
    (h : viewDiagnostics items = .ok diagnostics) : diagnostics = items.filterMap Json.asDict? := by
  rw [viewDiagnostics] at h
  induction mapM_ok h with
  | nil => rfl
  | @cons item _ _ _ hitem hrest ih =>
    cases item with
    | dict entries =>
      cases hitem
      rw [List.filterMap_cons_some (by rfl), ih (mapM_of_forall₂ hrest)]
    | scalar value => cases hitem
    | list items => cases hitem

section Verdicts

variable {E} [PyRuntime] [PyNumerals]

/-- The verdict on a suite whose batch has this source. -/
def verdictOn (run : Session → Handle → GxArtifactEnvelope → Text → Except Raised Json)
    (session : Session) (suite : GxArtifactEnvelope) (dataObjectVersionId correlationId : Text)
    (source : Except Raised Handle) : ExecutionStatus × List Dict × Dict :=
  match source >>= fun handle =>
    run session handle suite correlationId >>= coerceValidationPayload with
  | .ok payload => (payload.status, payload.diagnostics.filterMap Json.asDict?, payload.result)
  | .error exc => (.failed, [failureDiagnostic exc correlationId dataObjectVersionId], [])

theorem verdictOn_error
    {run : Session → Handle → GxArtifactEnvelope → Text → Except Raised Json} {session : Session}
    {suite : GxArtifactEnvelope} {dataObjectVersionId correlationId : Text} (exc : Raised) :
    verdictOn run session suite dataObjectVersionId correlationId (.error exc) =
      (.failed, [failureDiagnostic exc correlationId dataObjectVersionId], []) := rfl

variable {run : Session → Handle → GxArtifactEnvelope → Text → Except Raised Json}
  {turn position : ℕ} {session : Session} {handle : Handle} {batch : Batch Payload}
  {payload : Payload} {suite : GxArtifactEnvelope} {correlationId : Text} {exc : Raised}

theorem verdict_of_executeSuite {r : SuiteResult}
    (h : (E.withRunner run).executeSuite turn session handle batch correlationId payload position =
      .ok r) :
    ∃ suite, E.coerceSuite payload = .ok suite ∧
      r.verdict =
        verdictOn run session suite batch.dataObjectVersionId correlationId (.ok handle) := by
  obtain ⟨suite, answer, hsuite, hanswer, -, -, hstatus, hdiagnostics, hresult⟩ := executeSuite_ok h
  refine ⟨suite, hsuite, ?_⟩
  rw [SuiteResult.verdict, hstatus, hresult, viewDiagnostics_eq hdiagnostics, verdictOn, ok_bind]
  rw [validateSuite_eq rfl] at hanswer
  cases hrun : run session handle suite correlationId >>= coerceValidationPayload with
  | ok found =>
    rw [hrun] at hanswer
    cases hanswer
    rfl
  | error exc =>
    rw [hrun] at hanswer
    dsimp only at hanswer
    split at hanswer
    · cases hanswer
    · cases hanswer
      rfl

theorem verdict_of_failSuite {r : SuiteResult}
    (h : E.failSuite batch (failureDiagnostic exc correlationId batch.dataObjectVersionId) payload =
      .ok r) :
    ∃ suite, E.coerceSuite payload = .ok suite ∧
      r.verdict =
        verdictOn run session suite batch.dataObjectVersionId correlationId (.error exc) := by
  obtain ⟨⟨suite, hsuite, -⟩, hstatus, hdiagnostics, hresult⟩ := failSuite_ok h
  refine ⟨suite, hsuite, ?_⟩
  rw [SuiteResult.verdict, hstatus, hdiagnostics, hresult]
  rfl

/-- The verdict on a suite is the one on the source of its batch. -/
theorem verdict_of_executeBatch {r : BatchResult}
    (h : (E.withRunner run).executeBatch turn session batch correlationId = .ok r)
    (hpayload : batch.suites[position]? = some payload) :
    ∃ suite result, E.coerceSuite payload = .ok suite ∧ r.suiteResults[position]? = some result ∧
      result.verdict = verdictOn run session suite batch.dataObjectVersionId correlationId
        (E.loadBatchSource turn session batch correlationId) := by
  rw [executeBatch] at h
  have hsame : (E.withRunner run).loadBatchSource turn session batch correlationId =
      E.loadBatchSource turn session batch correlationId := rfl
  rw [hsame] at h
  cases hload : E.loadBatchSource turn session batch correlationId with
  | error exc =>
    rw [hload] at h
    dsimp only at h
    split at h
    · cases h
    · obtain ⟨results, hresults, h⟩ := ok_of_bind h
      cases h
      obtain ⟨result, hposition, hresult⟩ := mapM_getElem? hresults hpayload
      obtain ⟨suite, hsuite, hverdict⟩ := verdict_of_failSuite hresult
      exact ⟨suite, result, hsuite, hposition, hverdict⟩
  | ok handle =>
    rw [hload] at h
    dsimp only at h
    rw [executeSuites_eq] at h
    obtain ⟨metrics, -, h⟩ := ok_of_bind h
    obtain ⟨found, hfound, h⟩ := ok_of_bind h
    cases h
    obtain ⟨results, hresults, rfl⟩ := ok_of_map hfound
    obtain ⟨result, hposition, hresult⟩ := mapM_getElem? hresults (i := position)
      (x := (payload, position)) (by simp [List.getElem?_zipIdx, hpayload])
    obtain ⟨suite, hsuite, hverdict⟩ := verdict_of_executeSuite hresult
    exact ⟨suite, result, hsuite, hposition, hverdict⟩

variable {runId : Text} {plan : PlanPayload Payload} {batches : List (Batch Payload)}

variable (run) in
theorem acceptPlan_withRunner (haccept : E.acceptPlan plan = .ok batches) :
    (E.withRunner run).acceptPlan plan = .ok batches := by
  obtain ⟨found, hfound⟩ := runner_of_acceptPlan haccept
  rw [← haccept, acceptPlan, acceptPlan]
  have hpreflight : (E.withRunner run).preflightDependencies = E.preflightDependencies := by
    funext batches
    rw [preflightDependencies, preflightDependencies, hfound]
    rfl
  rw [hpreflight]

/-- The verdict on a suite of a run that returns. -/
theorem verdict_of_executePlan {report : RunResult} (haccept : E.acceptPlan plan = .ok batches)
    (h : (E.withRunner run).executePlan runId correlationId plan = .ok report)
    (hbatch : batches[turn]? = some batch) (hpayload : batch.suites[position]? = some payload) :
    ∃ session suite result, E.createSparkSession turn = .ok session ∧
      E.coerceSuite payload = .ok suite ∧ report.suiteResult? turn position = some result ∧
      result.verdict = verdictOn run session suite batch.dataObjectVersionId correlationId
        (E.loadBatchSource turn session batch correlationId) := by
  obtain ⟨batches', haccept', h⟩ := ok_of_bind h
  cases (acceptPlan_withRunner run haccept).symm.trans haccept'
  obtain ⟨results, hresults, h⟩ := ok_of_bind h
  cases h
  obtain ⟨r, hturn, hr⟩ := mapM_getElem? hresults (i := turn) (x := (batch, turn))
    (by simp [List.getElem?_zipIdx, hbatch])
  obtain ⟨session, hsession, hr⟩ := ok_of_bind hr
  obtain ⟨_, _, hr⟩ := ok_of_bind hr
  obtain ⟨suite, result, hsuite, hposition, hverdict⟩ := verdict_of_executeBatch hr hpayload
  exact ⟨session, suite, result, hsession, hsuite, by simp [RunResult.suiteResult?, hturn, hposition],
    hverdict⟩

end Verdicts

/-! ### Grouped and alone -/

section Grouped

variable [PyRuntime] [PyNumerals]

/-- Every answer of the runner can be reported. -/
def Reports (run : Session → Handle → GxArtifactEnvelope → Text → Except Raised Json) : Prop :=
  ∀ session handle suite correlationId, Reportable (run session handle suite correlationId)

/-- The run is reported, and the verdict on each suite is that of the plan that holds only that
suite. -/
def GroupedEqAlone (runId correlationId : Text) (plan : PlanPayload Payload)
    (batches : List (Batch Payload)) : Prop :=
  ∃ report, E.executePlan runId correlationId plan = .ok report ∧
    ∀ turn batch position payload, batches[turn]? = some batch →
      batch.suites[position]? = some payload →
      ∃ single grouped own, E.executePlan runId correlationId (batch.alone payload) = .ok single ∧
        report.suiteResult? turn position = some grouped ∧ single.suiteResult? 0 0 = some own ∧
        grouped.verdict = own.verdict

/-- Two loads give the same handle, whose metrics can be read, or fail in the same way. -/
def SameSource (dataObjectVersionId correlationId : Text) :
    Except Raised Handle → Except Raised Handle → Prop
  | .ok handle, .ok own =>
    handle = own ∧ ∃ metrics, extractScanMetrics (E.entries handle) = .ok metrics
  | .error exc, .error own =>
    exc.kind ≠ .baseException ∧ own.kind ≠ .baseException ∧
      failureDiagnostic exc correlationId dataObjectVersionId =
        failureDiagnostic own correlationId dataObjectVersionId
  | _, _ => False

/-- The batch has a session that can be stopped, and each of its suites passes the preflight on its
own, with a contract of an allowed shape, and leads to the source of the batch. -/
def SharesSource (correlationId : Text) (batch : Batch Payload) : Prop :=
  ∃ session, E.sparkSessionFactory 0 = .ok (some session) ∧
    (E.manageSparkSession → ∀ outcome, E.stop 0 session = some outcome → outcome = .ok ()) ∧
    ∀ payload ∈ batch.suites, E.preflightBatch 0 (batch.only payload) = .ok () ∧
      (∃ suite, E.coerceSuite payload = .ok suite ∧ HasShape suite) ∧
      E.SameSource batch.dataObjectVersionId correlationId
        (E.loadBatchSource 0 session batch correlationId)
        (E.loadBatchSource 0 session (batch.only payload) correlationId)

variable {E} {run : Session → Handle → GxArtifactEnvelope → Text → Except Raised Json}
  {session : Session} {suite : GxArtifactEnvelope} {dataObjectVersionId correlationId : Text}
  {source own : Except Raised Handle}

theorem verdictOn_of_sameSource (h : E.SameSource dataObjectVersionId correlationId source own) :
    verdictOn run session suite dataObjectVersionId correlationId source =
      verdictOn run session suite dataObjectVersionId correlationId own := by
  cases source with
  | ok handle =>
    cases own with
    | ok own =>
      cases h.1
      rfl
    | error exc => exact h.elim
  | error exc =>
    cases own with
    | ok own => exact h.elim
    | error own => rw [verdictOn_error, verdictOn_error, h.2.2]

/-- A runner that passes exactly the sources with a property. -/
noncomputable def telling (p : Handle → Prop) :
    Session → Handle → GxArtifactEnvelope → Text → Except Raised Json :=
  fun _ handle _ _ =>
    .ok (.dict [entry "passed" (.scalar (.bool (@decide (p handle) (Classical.propDecidable _))))])

theorem coerce_passed (passed : Bool) :
    coerceValidationPayload (.dict [entry "passed" (.scalar (.bool passed))]) =
      .ok ⟨if passed then .succeeded else .failed, [], [], none⟩ := by
  have hlower : PyRuntime.lower [] = [] := PyRuntime.lower_ascii [] (by simp)
  have hstatus : statusText [entry "passed" (.scalar (.bool passed))] =
      if passed then "succeeded" else "failed" := by
    show (if PyRuntime.lower [] = [] then _ else _) = _
    rw [if_pos hlower]
    cases passed <;> rfl
  rw [coerceValidationPayload]
  simp only [Json.asDict?, payloadStatus, hstatus]
  cases passed <;> rfl

theorem reports_telling (p : Handle → Prop) :
    Reports (telling p : Session → Handle → GxArtifactEnvelope → Text → Except Raised Json) := by
  intro session handle suite correlationId payload hpayload
  rw [coerce_passed] at hpayload
  cases hpayload
  intro item hitem
  cases hitem

theorem verdictOn_telling (p : Handle → Prop) (handle : Handle) :
    verdictOn (telling p) session suite dataObjectVersionId correlationId (.ok handle) =
      (if @decide (p handle) (Classical.propDecidable _) then .succeeded else .failed, [], []) := by
  rw [verdictOn, ok_bind, telling, ok_bind, coerce_passed]
  rfl

/-- Loads on which every telling runner gives the same verdict are the same source. -/
theorem sameSource_of_telling
    (h : ∀ p : Handle → Prop,
      verdictOn (telling p) session suite dataObjectVersionId correlationId source =
        verdictOn (telling p) session suite dataObjectVersionId correlationId own)
    (hsource : ∀ exc, source = .error exc → exc.kind ≠ .baseException)
    (hown : ∀ exc, own = .error exc → exc.kind ≠ .baseException)
    (hmetrics : ∀ handle, source = .ok handle →
      ∃ metrics, extractScanMetrics (E.entries handle) = .ok metrics) :
    E.SameSource dataObjectVersionId correlationId source own := by
  cases source with
  | ok handle =>
    cases own with
    | ok own =>
      refine ⟨?_, hmetrics handle rfl⟩
      have hsame := h fun found => found = handle
      simp only [verdictOn_telling] at hsame
      by_contra hne
      simp [Ne.symm hne] at hsame
    | error exc =>
      have hsame := h fun _ => True
      rw [verdictOn_telling, verdictOn_error] at hsame
      simp at hsame
  | error exc =>
    cases own with
    | ok own =>
      have hsame := h fun _ => True
      rw [verdictOn_telling, verdictOn_error] at hsame
      simp at hsame
    | error own =>
      have hsame := h fun _ => True
      rw [verdictOn_error, verdictOn_error] at hsame
      simp only [Prod.mk.injEq, List.cons.injEq, and_true, true_and] at hsame
      exact ⟨hsource exc rfl, hown own rfl, hsame⟩

variable {runId : Text} {plan : PlanPayload Payload} {batches : List (Batch Payload)}
  {batch : Batch Payload} {payload : Payload}

variable {run₀ : ℕ → ℕ → Session → Handle → GxArtifactEnvelope → Text → Except Raised Json}

omit [PyRuntime] [PyNumerals] in
theorem preflightDependencies_singleton (hrun : E.validationRunner = some run₀) :
    E.preflightDependencies [batch] = E.preflightBatch 0 batch := by
  rw [preflightDependencies, hrun]
  show (E.preflightBatch 0 batch >>= fun _ => pure ()) = _
  cases E.preflightBatch 0 batch <;> rfl

theorem acceptPlan_alone_iff (hrun : E.validationRunner = some run₀)
    {found : List (Batch Payload)} :
    E.acceptPlan (batch.alone payload) = .ok found ↔
      E.preflightBatch 0 (batch.only payload) = .ok () ∧ found = [batch.only payload] := by
  rw [acceptPlan, batch.coerceBatches_alone payload, ok_bind, preflightDependencies_singleton hrun]
  cases E.preflightBatch 0 (batch.only payload) with
  | error exc => simp
  | ok _ => simp [pure, Except.pure, eq_comm]

/-- A suite that is reported on its own passes the preflight, and has a contract of an allowed shape
and a source that does not end the run. -/
theorem alone_returns (hrun : E.validationRunner = some run₀) {single : RunResult}
    (h : E.executePlan runId correlationId (batch.alone payload) = .ok single) :
    E.preflightBatch 0 (batch.only payload) = .ok () ∧
      E.Uninterrupted correlationId 0 (batch.only payload) := by
  obtain ⟨found, haccept, -⟩ := ok_of_bind h
  obtain ⟨hpreflight, rfl⟩ := (acceptPlan_alone_iff hrun).mp haccept
  exact ⟨hpreflight, (exists_executePlan_iff haccept runId).mp ⟨single, h⟩ _
    (List.mem_singleton.mpr rfl)⟩

omit [PyRuntime] [PyNumerals] in
theorem contract_of_preflightBatch {turn : ℕ} (h : E.preflightBatch turn batch = .ok ()) :
    ∃ suite contract, E.coerceSuite batch.first = .ok suite ∧
      suite.executionContract = some contract := by
  obtain ⟨suite, hsuite, h⟩ := ok_of_bind h
  cases hcontract : suite.executionContract with
  | none =>
    rw [hcontract] at h
    cases h
  | some contract => exact ⟨suite, contract, hsuite, hcontract⟩

theorem hasShape_of_uninterrupted {turn : ℕ}
    (hpreflight : E.preflightBatch turn (batch.only payload) = .ok ())
    (h : E.Uninterrupted correlationId turn (batch.only payload)) :
    ∃ suite, E.coerceSuite payload = .ok suite ∧ HasShape suite := by
  obtain ⟨session, -, -, h⟩ := h
  split at h
  · obtain ⟨suite, hsuite, hshape⟩ := h.2 payload (List.mem_singleton.mpr rfl)
    refine ⟨suite, hsuite, hshape.resolve_left ?_⟩
    obtain ⟨suite', contract, hsuite', hcontract⟩ := contract_of_preflightBatch hpreflight
    cases hsuite.symm.trans hsuite'
    rw [hcontract]
    exact Option.some_ne_none _
  · obtain ⟨suite, hsuite, hshape, -⟩ := h.2 (payload, 0) (List.mem_singleton.mpr rfl)
    exact ⟨suite, hsuite, hshape⟩

theorem Uninterrupted.loads {turn : ℕ} (h : E.Uninterrupted correlationId turn batch) :
    ∃ session, E.sparkSessionFactory turn = .ok (some session) ∧
      (E.manageSparkSession → ∀ outcome, E.stop turn session = some outcome → outcome = .ok ()) ∧
      (∀ exc, E.loadBatchSource turn session batch correlationId = .error exc →
        exc.kind ≠ .baseException) ∧
      ∀ handle, E.loadBatchSource turn session batch correlationId = .ok handle →
        ∃ metrics, extractScanMetrics (E.entries handle) = .ok metrics := by
  obtain ⟨session, hsession, hstop, hload⟩ := h
  refine ⟨session, hsession, hstop, fun exc hexc => ?_, fun handle hhandle => ?_⟩
  · rw [hexc] at hload
    exact hload.1
  · rw [hhandle] at hload
    exact hload.1

omit [PyRuntime] in
theorem SameSource.right (h : E.SameSource dataObjectVersionId correlationId source own) :
    E.SameSource dataObjectVersionId correlationId own own := by
  cases source with
  | ok handle =>
    cases own with
    | ok own =>
      obtain ⟨rfl, hmetrics⟩ := h
      exact ⟨rfl, hmetrics⟩
    | error exc => exact h.elim
  | error exc =>
    cases own with
    | ok own => exact h.elim
    | error own => exact ⟨h.2.1, h.2.1, rfl⟩

omit [PyRuntime] in
theorem SharesSource.only (h : E.SharesSource correlationId batch)
    (hpayload : payload ∈ batch.suites) : E.SharesSource correlationId (batch.only payload) := by
  obtain ⟨session, hsession, hstop, hsuites⟩ := h
  refine ⟨session, hsession, hstop, fun found hfound => ?_⟩
  cases List.mem_singleton.mp hfound
  obtain ⟨hpreflight, hshape, hsame⟩ := hsuites payload hpayload
  exact ⟨hpreflight, hshape, hsame.right⟩

theorem SharesSource.uninterrupted {turn : ℕ} (h : E.SharesSource correlationId batch)
    (hdet : E.Deterministic) (hreports : Reports run) :
    (E.withRunner run).Uninterrupted correlationId turn batch := by
  obtain ⟨session, hsession, hstop, hsuites⟩ := h
  refine ⟨session, (hdet.sparkSessionFactory turn).trans hsession, ?_, ?_⟩
  · show E.manageSparkSession → ∀ outcome, E.stop turn session = some outcome → outcome = .ok ()
    rw [hdet.stop turn]
    exact hstop
  · have hload : (E.withRunner run).loadBatchSource turn session batch correlationId =
        E.loadBatchSource 0 session batch correlationId := by
      rw [← hdet.loadBatchSource turn]
      rfl
    have hfirst : E.SameSource batch.dataObjectVersionId correlationId
        (E.loadBatchSource 0 session batch correlationId)
        (E.loadBatchSource 0 session batch correlationId) :=
      (hsuites batch.first (List.head_mem batch.suites_ne)).2.2
    rw [hload]
    cases hsource : E.loadBatchSource 0 session batch correlationId with
    | ok handle =>
      rw [hsource] at hfirst
      refine ⟨hfirst.2, fun item hitem => ?_⟩
      obtain ⟨-, ⟨suite, hsuite, hshape⟩, -⟩ := hsuites item.1 (List.fst_mem_of_mem_zipIdx hitem)
      refine ⟨suite, hsuite, hshape, ?_⟩
      rintro _ ⟨⟩
      exact hreports _ _ _ _
    | error exc =>
      rw [hsource] at hfirst
      refine ⟨hfirst.1, fun payload hpayload => ?_⟩
      obtain ⟨-, ⟨suite, hsuite, hshape⟩, -⟩ := hsuites payload hpayload
      exact ⟨suite, hsuite, .inr hshape⟩

/-- The verdicts in a grouped run and on its own are those on the source of the batch and on the
suite's own source. -/
theorem verdicts_of_executePlan (hdet : E.Deterministic) (haccept : E.acceptPlan plan = .ok batches)
    {turn position : ℕ} {report single : RunResult}
    (hreport : (E.withRunner run).executePlan runId correlationId plan = .ok report)
    (hsingle : (E.withRunner run).executePlan runId correlationId (batch.alone payload) =
      .ok single)
    (hbatch : batches[turn]? = some batch) (hpayload : batch.suites[position]? = some payload)
    (hsession : E.sparkSessionFactory 0 = .ok (some session)) :
    ∃ suite grouped own, E.coerceSuite payload = .ok suite ∧
      report.suiteResult? turn position = some grouped ∧ single.suiteResult? 0 0 = some own ∧
      grouped.verdict = verdictOn run session suite batch.dataObjectVersionId correlationId
        (E.loadBatchSource 0 session batch correlationId) ∧
      own.verdict = verdictOn run session suite batch.dataObjectVersionId correlationId
        (E.loadBatchSource 0 session (batch.only payload) correlationId) := by
  obtain ⟨run₀, hrun⟩ := runner_of_acceptPlan haccept
  have hrunner : (E.withRunner run).validationRunner = some fun _ _ => run := rfl
  have hpreflight : E.preflightBatch 0 (batch.only payload) = .ok () :=
    (alone_returns hrunner hsingle).1
  have halone := (acceptPlan_alone_iff hrun).mpr ⟨hpreflight, rfl⟩
  obtain ⟨s, suite, grouped, hs, hsuite, hgrouped, hverdict⟩ :=
    verdict_of_executePlan haccept hreport hbatch hpayload
  obtain ⟨s', suite', own, hs', hsuite', hown, hverdict'⟩ :=
    verdict_of_executePlan halone hsingle (show [batch.only payload][0]? = _ from rfl)
      (show (batch.only payload).suites[0]? = some payload from rfl)
  rw [createSparkSession_ok_iff, hdet.sparkSessionFactory] at hs hs'
  cases hsession.symm.trans hs
  cases hsession.symm.trans hs'
  cases hsuite.symm.trans hsuite'
  rw [hdet.loadBatchSource] at hverdict
  exact ⟨suite, grouped, own, hsuite, hgrouped, hown, hverdict, hverdict'⟩

theorem sharesSource_of_groupedEqAlone (hdet : E.Deterministic)
    (haccept : E.acceptPlan plan = .ok batches)
    (h : ∀ run, Reports run →
      (E.withRunner run).GroupedEqAlone runId correlationId plan batches)
    (hbatch : batch ∈ batches) : E.SharesSource correlationId batch := by
  obtain ⟨turn, hturn⟩ := List.mem_iff_getElem?.mp hbatch
  obtain ⟨report, hreport, hall⟩ := h _ (reports_telling fun _ => True)
  have hbatches := (exists_executePlan_iff (acceptPlan_withRunner _ haccept) runId).mp
    ⟨report, hreport⟩
  obtain ⟨session, hsession, hstop, herror, hmetrics⟩ :=
    (hbatches (batch, turn) (List.mk_mem_zipIdx_iff_getElem?.mpr hturn)).loads
  have hfactory : E.sparkSessionFactory 0 = .ok (some session) :=
    (hdet.sparkSessionFactory turn).symm.trans hsession
  have hsource : E.loadBatchSource turn session batch correlationId =
      E.loadBatchSource 0 session batch correlationId := by rw [hdet.loadBatchSource turn]
  refine ⟨session, hfactory, by rw [← hdet.stop turn]; exact hstop, fun payload hpayload => ?_⟩
  obtain ⟨position, hposition⟩ := List.mem_iff_getElem?.mp hpayload
  obtain ⟨single, _, _, hsingle, -⟩ := hall turn batch position payload hturn hposition
  obtain ⟨hpreflight, halone⟩ := alone_returns rfl hsingle
  obtain ⟨session', hsession', -, herror', -⟩ := halone.loads
  cases hfactory.symm.trans hsession'
  obtain ⟨suite, hsuite, hshape⟩ := hasShape_of_uninterrupted hpreflight halone
  -- A runner that tells a property of the source is one of those that the verdicts agree for.
  have htelling : ∀ p : Handle → Prop,
      verdictOn (telling p) session suite batch.dataObjectVersionId correlationId
          (E.loadBatchSource 0 session batch correlationId) =
        verdictOn (telling p) session suite batch.dataObjectVersionId correlationId
          (E.loadBatchSource 0 session (batch.only payload) correlationId) := by
    intro p
    obtain ⟨report, hreport, hall⟩ := h _ (reports_telling p)
    obtain ⟨single, grouped, own, hsingle, hgrouped, hown, hsame⟩ :=
      hall turn batch position payload hturn hposition
    obtain ⟨suite', grouped', own', hsuite', hgrouped', hown', hverdict, hverdict'⟩ :=
      verdicts_of_executePlan hdet haccept hreport hsingle hturn hposition hfactory
    cases hsuite.symm.trans hsuite'
    cases hgrouped.symm.trans hgrouped'
    cases hown.symm.trans hown'
    rw [← hverdict, ← hverdict', hsame]
  exact ⟨hpreflight, ⟨suite, hsuite, hshape⟩,
    sameSource_of_telling htelling (hsource ▸ herror) herror' (hsource ▸ hmetrics)⟩

theorem groupedEqAlone_of_sharesSource (hdet : E.Deterministic)
    (haccept : E.acceptPlan plan = .ok batches)
    (h : ∀ batch ∈ batches, E.SharesSource correlationId batch) (hreports : Reports run) :
    (E.withRunner run).GroupedEqAlone runId correlationId plan batches := by
  obtain ⟨report, hreport⟩ := (exists_executePlan_iff (acceptPlan_withRunner run haccept) runId).mpr
    fun item hitem => (h item.1 (List.fst_mem_of_mem_zipIdx hitem)).uninterrupted hdet hreports
  refine ⟨report, hreport, fun turn batch position payload hbatch hpayload => ?_⟩
  have hshares := h batch (List.mem_of_getElem? hbatch)
  have hmem := List.mem_of_getElem? hpayload
  obtain ⟨run₀, hrun⟩ := runner_of_acceptPlan haccept
  obtain ⟨session, hsession, -, hsuites⟩ := id hshares
  obtain ⟨hpreflight, -, hsame⟩ := hsuites payload hmem
  have halone := (acceptPlan_alone_iff hrun).mpr ⟨hpreflight, rfl⟩
  obtain ⟨single, hsingle⟩ :=
    (exists_executePlan_iff (acceptPlan_withRunner run halone) runId).mpr fun item hitem => by
      cases List.mem_singleton.mp hitem
      exact (hshares.only hmem).uninterrupted hdet hreports
  obtain ⟨suite, grouped, own, -, hgrouped, hown, hverdict, hverdict'⟩ :=
    verdicts_of_executePlan hdet haccept hreport hsingle hbatch hpayload hsession
  exact ⟨single, grouped, own, hsingle, hgrouped, hown,
    (hverdict.trans (verdictOn_of_sameSource hsame)).trans hverdict'.symm⟩

/-- Surroundings that always answer the same: for every runner whose answers can be reported, the
verdicts of a grouped run are those of the suites on their own, exactly when the suites of each batch
share its source. -/
theorem grouped_eq_alone_iff (E : Executor Session Handle Asset Payload) (hdet : E.Deterministic)
    (runId correlationId : Text) (plan : PlanPayload Payload) (batches : List (Batch Payload))
    (haccept : E.acceptPlan plan = .ok batches) :
    (∀ run, Reports run → (E.withRunner run).GroupedEqAlone runId correlationId plan batches) ↔
      ∀ batch ∈ batches, E.SharesSource correlationId batch := by
  constructor
  · intro h batch hbatch
    exact sharesSource_of_groupedEqAlone hdet haccept h hbatch
  · intro h run hreports
    exact groupedEqAlone_of_sharesSource hdet haccept h hreports

end Grouped

end Executor

/-! ### Examples -/

section Example

local instance sampleRuntimeAlone : PyRuntime := .ascii (fun _ => .nan) (fun _ => [])

local instance sampleNumeralsAlone : PyNumerals := ⟨fun _ => none, fun _ => none, id⟩

/-- An executor whose runner passes only on the data object version itself. -/
def choosyExecutor : Executor Unit Text Unit GxArtifactEnvelope :=
  namingExecutor (· == "dov-1")

/-- A join in a batch whose first suite is on a single object. -/
def mixedPlan : PlanPayload GxArtifactEnvelope :=
  pairPlan (some (pysparkContract "join_pair" (some "joined")))

/-- The join is validated on the first suite's source. -/
theorem grouped_eq_alone_counterexample :
    ¬∀ (E : Executor Unit Text Unit GxArtifactEnvelope) (runId correlationId : Text)
      (plan : PlanPayload GxArtifactEnvelope) (batches : List (Batch GxArtifactEnvelope)),
      E.Deterministic → E.acceptPlan plan = .ok batches →
        E.GroupedEqAlone runId correlationId plan batches := by
  intro h
  obtain ⟨report, hreport, hall⟩ := h choosyExecutor [] [] mixedPlan _ rfl rfl
  obtain ⟨single, grouped, own, hsingle, hgrouped, hown, hverdict⟩ := hall 0 _ 1 _ rfl rfl
  have hpassed : (choosyExecutor.executePlan [] [] mixedPlan).toOption.bind
      (fun report => (report.suiteResult? 0 1).map SuiteResult.status) = some .succeeded := by
    decide +kernel
  have hfailed : (choosyExecutor.executePlan [] [] (oneBatch [plannedSuite "b"
      (some (pysparkContract "join_pair" (some "joined")))])).toOption.bind
      (fun report => (report.suiteResult? 0 0).map SuiteResult.status) = some .failed := by
    decide +kernel
  rw [hreport] at hpassed
  change (choosyExecutor.executePlan [] [] (oneBatch [plannedSuite "b"
    (some (pysparkContract "join_pair" (some "joined")))])) = _ at hsingle
  rw [hsingle] at hfailed
  simp only [Except.toOption, Option.bind_some, hgrouped, hown, Option.map_some,
    Option.some.injEq] at hpassed hfailed
  have hstatus := congrArg Prod.fst hverdict
  rw [SuiteResult.verdict, SuiteResult.verdict, hpassed, hfailed] at hstatus
  cases hstatus

/-- Two suites on the target itself get their own verdicts. -/
theorem grouped_eq_alone_pair :
    ∃ batches, choosyExecutor.acceptPlan
        (pairPlan (some (pysparkContract "single_object" none))) = .ok batches ∧
      ∀ run, Executor.Reports run → (choosyExecutor.withRunner run).GroupedEqAlone [] []
        (pairPlan (some (pysparkContract "single_object" none))) batches := by
  refine ⟨_, rfl, (Executor.grouped_eq_alone_iff choosyExecutor rfl [] [] _ _ rfl).mpr ?_⟩
  intro batch hbatch
  cases List.mem_singleton.mp hbatch
  refine ⟨(), rfl, by rintro _ _ ⟨⟩, fun payload hpayload => ?_⟩
  rcases List.mem_cons.mp hpayload with rfl | hpayload
  · exact ⟨rfl, ⟨_, rfl, _, _, rfl, rfl, by decide⟩, rfl, _, rfl⟩
  · cases List.mem_singleton.mp hpayload
    exact ⟨rfl, ⟨_, rfl, _, _, rfl, rfl, by decide⟩, rfl, _, rfl⟩

end Example

end Execution

end DqMadeEasy
