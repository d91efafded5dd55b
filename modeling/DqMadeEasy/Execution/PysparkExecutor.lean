import DqMadeEasy.Artifacts.GxSuite

/-!
# The PySpark executor

`PysparkExecutionExecutor.execute_plan`: the plan's batches are read and checked, and each is
executed with a Spark session of its own. A batch loads one source, by its first suite, and runs
each of its suites on it. What is outside the executor (the session factory, the loaders, the source
adapter and the validation runner) answers as it likes and may answer differently each time: an
answer is indexed by its `turn`, the position of the batch, and for the runner also of the suite.
Times are left out.
-/

namespace DqMadeEasy

namespace Execution

open Artifacts Worker

/-! ### Exceptions -/

/-- What the `except` clauses of the executor distinguish. A `baseException` is none of theirs. -/
inductive RaisedKind where
  | executionError
  | sourceAdapterError (statusCode : ℤ)
  | exception
  | baseException
  deriving DecidableEq

/-- A raised exception; `errorCode` is `getattr(exc, "error_code", "")`. -/
structure Raised where
  kind : RaisedKind
  className : Text
  message : Text
  errorCode : Text
  deriving DecidableEq

def executionError (message : Text) (statusCode : ℤ) : Raised :=
  if statusCode = 503 then
    ⟨.executionError, "PysparkExecutionDependencyError", message,
      "PYSPARK_EXECUTION_DEPENDENCY_ERROR"⟩
  else if statusCode = 400 then
    ⟨.executionError, "PysparkExecutionPlanError", message,
      "PYSPARK_EXECUTION_PLAN_ERROR"⟩
  else
    ⟨.executionError, "PysparkExecutionError", message, "PYSPARK_EXECUTION_ERROR"⟩

/-- An exception of the language or of pydantic. -/
def Raised.builtin (className message : String) : Raised :=
  ⟨.exception, className.toList, message.toList, []⟩

/-- Reading a field of `None`. -/
def attributeError : Raised :=
  .builtin "AttributeError" "'NoneType' object has no attribute 'executionShape'"

/-- A view that does not validate, without pydantic's text. -/
def validationError : Raised := .builtin "ValidationError" ""

/-- An `int` of a value that is not a number, without its text. -/
def numberError : Raised := .builtin "ValueError" ""

/-- `_build_failure_diagnostic`. -/
def failureDiagnostic (exc : Raised) (correlationId dataObjectVersionId : Text) : Dict :=
  [entry "reason" (.text "executor-runtime-error"),
    entry "errorCode" (.scalar (.str
      (if exc.errorCode = [] then "EXECUTOR_RUNTIME_ERROR" else exc.errorCode))),
    entry "errorType" (.scalar (.str exc.className)),
    entry "correlationId" (.scalar (.str correlationId)),
    entry "dataObjectVersionId" (.scalar (.str dataObjectVersionId)),
    entry "message" (.scalar (.str exc.message))]

/-! ### Results -/

/-- The statuses that the executor gives. -/
inductive ExecutionStatus where
  | succeeded | failed
  deriving DecidableEq

/-- The allowed values of `gx.execution_shape`. -/
def executionShapes : List Text :=
  ["single_object", "join_pair", "streaming", "micro_batch", "grouped_scope"].map String.toList

/-- `PysparkExecutionSuiteResultView`. -/
structure SuiteResult where
  suiteId : Text
  suiteVersion : ℕ
  dataObjectVersionId : Text
  executionShape : Text
  status : ExecutionStatus
  diagnostics : List Dict
  result : Dict
  executionFailure : Option Dict

/-- `PysparkExecutionPerformanceSummaryView`. -/
structure PerformanceSummary where
  executionPath : String
  plannerChoice : String
  suiteCount : ℕ
  batchCount : ℕ
  selectedTargetCount : ℕ
  dataScannedRows : Option ℤ
  dataScannedBytes : Option ℤ

/-- `PysparkExecutionBatchResultView`. -/
structure BatchResult where
  dataObjectVersionId : Text
  incrementalSelection : Option Dict
  suiteCount : ℕ
  status : ExecutionStatus
  suiteResults : List SuiteResult
  diagnostics : List Dict
  performanceSummary : PerformanceSummary

/-- `PysparkExecutionRunResultView`. -/
structure RunResult where
  runId : Text
  correlationId : Text
  suiteCount : ℕ
  batchCount : ℕ
  status : ExecutionStatus
  batchResults : List BatchResult
  diagnostics : List Dict
  performanceSummary : PerformanceSummary

/-- `"succeeded" if all(…) else "failed"`. -/
def statusOf (parts : List ExecutionStatus) : ExecutionStatus :=
  if parts.all (· == .succeeded) then .succeeded else .failed

theorem statusOf_eq_succeeded_iff {parts : List ExecutionStatus} :
    statusOf parts = .succeeded ↔ ∀ part ∈ parts, part = .succeeded := by
  rw [statusOf]
  split
  · next h => simpa using h
  · next h => simpa using h

/-- The diagnostics of a suite result that the view accepts: a list of dictionaries. -/
def viewDiagnostics (diagnostics : List Json) : Except Raised (List Dict) :=
  diagnostics.mapM fun
    | .dict entries => .ok entries
    | _ => .error validationError

/-- The view of a suite's result, whose shape must be an allowed one. -/
def suiteResultView (suite : GxArtifactEnvelope) (dataObjectVersionId executionShape : Text)
    (status : ExecutionStatus) (diagnostics : List Json) (result : Dict)
    (executionFailure : Option Dict) : Except Raised SuiteResult := do
  if executionShape.strip ∉ executionShapes then throw validationError
  let diagnostics ← viewDiagnostics diagnostics
  return {
    suiteId := suite.suiteId.strip
    suiteVersion := suite.suiteVersion
    dataObjectVersionId := dataObjectVersionId
    executionShape := executionShape.strip
    status := status
    diagnostics := diagnostics
    result := result
    executionFailure := executionFailure }

/-! ### Plans -/

/-- An item of `batches`, as the executor reads it: `suites` is `none` where it is no list. -/
inductive PlanBatch (Payload : Type) where
  | mapping (dataObjectVersionId : Json) (suites : Option (List Payload))
      (incrementalSelection : Json)
  | other

/-- A plan; `batches` is `none` where it is no list. -/
structure PlanPayload (Payload : Type) where
  batches : Option (List (PlanBatch Payload))

/-- A batch that `_coerce_batch` returns; it names its target and holds a suite. -/
structure Batch (Payload : Type) where
  dataObjectVersionId : Text
  stripped : dataObjectVersionId.strip = dataObjectVersionId
  named : dataObjectVersionId ≠ []
  incrementalSelection : Option Dict
  suites : List Payload
  suites_ne : suites ≠ []

namespace Batch

variable {Payload : Type}

/-- `suites[0]`. -/
def first (batch : Batch Payload) : Payload := batch.suites.head batch.suites_ne

/-- `_planner_choice_for_batch`; a coerced batch has no `plannerChoice` of its own. -/
def plannerChoice (batch : Batch Payload) : String :=
  if batch.incrementalSelection.isSome then "incremental_scope" else "full_scope"

/-- `_execution_path_for_batch`; a coerced batch has no `executionPath` of its own. -/
def executionPath (batch : Batch Payload) : String :=
  if batch.plannerChoice = "incremental_scope" then "incremental_grouped_execution"
  else "grouped_execution"

end Batch

section Plans

variable {Payload : Type} [PyRuntime] [PyNumerals]

def coerceBatch : PlanBatch Payload → Except Raised (Batch Payload)
  | .other => .error (executionError "Grouped execution batch is invalid" 400)
  | .mapping dataObjectVersionId suites incrementalSelection =>
    if hnamed : dataObjectVersionId.strippedText = [] then
      .error (executionError "Grouped execution batch is missing dataObjectVersionId" 400)
    else if hsuites : suites.getD [] = [] then
      .error (executionError ("Grouped execution batch '" ++
        dataObjectVersionId.strippedText ++ "' does not include any suite envelopes") 400)
    else
      let batch (selection : Option Dict) : Batch Payload :=
        ⟨dataObjectVersionId.strippedText, dataObjectVersionId.strip_strippedText, hnamed, selection,
          suites.getD [], hsuites⟩
      match incrementalSelection with
      | .scalar .none => .ok (batch none)
      | .dict selection => .ok (batch (some selection))
      | _ =>
        .error (executionError ("Grouped execution batch '" ++
          dataObjectVersionId.strippedText ++
          "' declares an invalid incrementalSelection") 400)

def coerceBatches (plan : PlanPayload Payload) : Except Raised (List (Batch Payload)) :=
  match plan.batches with
  | none => .error (executionError "Grouped execution plan is missing batches" 400)
  | some batches => batches.mapM coerceBatch

end Plans

/-! ### The runner's answer -/

/-- What `_coerce_validation_payload` reads of the runner's answer. -/
structure ValidationPayload where
  status : ExecutionStatus
  diagnostics : List Json
  result : Dict
  executionFailure : Option Dict

section Answers

variable [PyRuntime] [PyNumerals]

/-- `status`, or else `passed`. -/
def statusText (payload : Dict) : Text :=
  let status := PyRuntime.lower (payload.get "status").strippedText
  if status = [] then
    (if (payload.get "passed").truthy then "succeeded" else "failed")
  else status

/-- The status of an answer, which must be one of the two. -/
def payloadStatus (payload : Dict) : Except Raised ExecutionStatus :=
  if statusText payload = "succeeded" then .ok .succeeded
  else if statusText payload = "failed" then .ok .failed
  else .error (executionError ("Validation runner returned unsupported status '" ++
    statusText payload ++ "'") 400)

def payloadDiagnostics (payload : Dict) : Except Raised (List Json) :=
  match (payload.get "diagnostics").orElse (.list []) with
  | .list items => .ok items
  | _ => .error (executionError "Validation runner diagnostics must be a list" 400)

def payloadResult (payload : Dict) : Except Raised Dict :=
  match (payload.get "result").orElse (.dict []) with
  | .dict entries => .ok entries
  | _ => .error (executionError "Validation runner result must be a mapping" 400)

def payloadFailure (payload : Dict) : Except Raised (Option Dict) :=
  match payload.get "executionFailure" with
  | .scalar .none => .ok none
  | .dict entries => .ok (some entries)
  | _ => .error (executionError
      "Validation runner executionFailure must be a mapping when provided" 400)

def coerceValidationPayload (answer : Json) : Except Raised ValidationPayload :=
  match answer.asDict? with
  | none => .error (executionError "Validation runner must return a mapping" 400)
  | some payload => do
    let status ← payloadStatus payload
    let diagnostics ← payloadDiagnostics payload
    let result ← payloadResult payload
    let executionFailure ← payloadFailure payload
    return ⟨status, diagnostics, result, executionFailure⟩

/-! ### Scan metrics -/

/-- `int` of the first of some keys whose value is not `None`. -/
def firstInt (metrics : Dict) (keys : List String) : Except Raised (Option ℤ) :=
  match (keys.map metrics.get).find? (fun value => !value.isNone) with
  | none => .ok none
  | some value =>
    match value.toInt? with
    | some n => .ok (some n)
    | none => .error numberError

/-- `_extract_scan_metrics`, rows and bytes, of a handle's entries if it is a mapping. -/
def extractScanMetrics (entries : Option Dict) : Except Raised (Option ℤ × Option ℤ) :=
  match entries with
  | none => .ok (none, none)
  | some entries =>
    match (["scan_metrics", "scanMetrics"].map entries.get).findSome? Json.asDict? with
    | none => .ok (none, none)
    | some metrics => do
      let rows ← firstInt metrics ["rows_scanned", "rowsScanned", "row_count", "rowCount",
        "records_scanned", "recordsScanned"]
      let bytes ← firstInt metrics ["bytes_scanned", "bytesScanned"]
      return (rows, bytes)

end Answers

/-! ### The executor -/

/-- A `GxExecutionSourceAdapter`. -/
structure SourceAdapter (Session Handle Asset : Type) where
  supportsExecutionShape : (turn : ℕ) → Text → Except Raised Bool
  resolveAsset : (turn : ℕ) → Session → GxArtifactEnvelope → Text → Text → Except Raised Asset
  loadDataframe : (turn : ℕ) → Session → Asset → Except Raised Handle
  materializePrimaryKey : (turn : ℕ) → Handle → List Text → Except Raised Handle
  emitValidationTarget : (turn : ℕ) → Handle → Dict → Except Raised Handle

/-- A `PysparkExecutionExecutor`. `coerceSuite` is `_coerce_suite`, `entries` are the entries of a
source handle that is a mapping, and `stop` is `none` for a session without that method. -/
structure Executor (Session Handle Asset Payload : Type) where
  coerceSuite : Payload → Except Raised GxArtifactEnvelope
  entries : Handle → Option Dict
  sourceLoader : Option ((turn : ℕ) → Session → Text → Except Raised Handle)
  materializedSourceLoader : Option ((turn : ℕ) → Session → Option Text → Except Raised Handle)
  sourceAdapter : Option (SourceAdapter Session Handle Asset)
  validationRunner :
    Option ((turn position : ℕ) → Session → Handle → GxArtifactEnvelope → Text → Except Raised Json)
  sparkSessionFactory : (turn : ℕ) → Except Raised (Option Session)
  stop : (turn : ℕ) → Session → Option (Except Raised Unit)
  manageSparkSession : Bool

namespace Executor

variable {Session Handle Asset Payload : Type} [PyRuntime] [PyNumerals]
variable (E : Executor Session Handle Asset Payload)

/-- `GX suite '…' …`. -/
def suiteError (suite : GxArtifactEnvelope) (problem : String) : Raised :=
  executionError ("GX suite '" ++ suite.suiteId ++ "' " ++ problem.toList) 400

def missingRunner : Raised :=
  executionError "No validation_runner was configured for pyspark execution" 503

def missingLoader : Raised :=
  executionError
    "No source_loader was configured for single_object/streaming/micro_batch execution" 503

def missingMaterializedLoader : Raised :=
  executionError "No materialized_source_loader was configured for join_pair execution" 503

/-! #### Preflight -/

/-- The check of a batch, by its first suite. -/
def preflightBatch (turn : ℕ) (batch : Batch Payload) : Except Raised Unit := do
  let suite ← E.coerceSuite batch.first
  match suite.executionContract with
  | none => throw (suiteError suite "is missing an executionContract")
  | some contract =>
    let shape := (contract.executionShape.getD []).strip
    match E.sourceAdapter with
    | some adapter =>
      if !(← adapter.supportsExecutionShape turn shape) then
        throw (executionError ("Configured source_adapter does not support '" ++ shape ++
          "' execution") 400)
    | none =>
      if shape = "join_pair" ∧ E.materializedSourceLoader.isNone then
        throw missingMaterializedLoader
      else if shape ≠ "join_pair" ∧ E.sourceLoader.isNone then
        throw missingLoader

def preflightDependencies (batches : List (Batch Payload)) : Except Raised Unit :=
  if E.validationRunner.isNone then .error missingRunner
  else batches.zipIdx.forM fun (batch, turn) => E.preflightBatch turn batch

def acceptPlan (plan : PlanPayload Payload) : Except Raised (List (Batch Payload)) := do
  let batches ← coerceBatches plan
  E.preflightDependencies batches
  return batches

/-! #### Sources -/

/-- The context that the adapter attaches to a validation target. -/
def validationContext (suite : GxArtifactEnvelope) (dataObjectVersionId : Text)
    (incrementalSelection : Option Dict) (correlationId : Text) : Dict :=
  [entry "suite_id" (.scalar (.str suite.suiteId.strip)),
    entry "suite_version" (.int suite.suiteVersion),
    entry "data_object_version_id" (.scalar (.str dataObjectVersionId)),
    entry "correlation_id" (.scalar (.str correlationId)),
    entry "incremental_selection" (incrementalSelection.elim .null .dict)]

/-- The adapter's four calls for a suite. -/
def adaptSource (adapter : SourceAdapter Session Handle Asset) (turn : ℕ) (session : Session)
    (suite : GxArtifactEnvelope) (dataObjectVersionId : Text) (incrementalSelection : Option Dict)
    (correlationId : Text) : Except Raised Handle := do
  let asset ← adapter.resolveAsset turn session suite dataObjectVersionId correlationId
  let handle ← adapter.loadDataframe turn session asset
  let handle ← adapter.materializePrimaryKey turn handle suite.executionHints.primaryKeyFields
  adapter.emitValidationTarget turn handle
    (validationContext suite dataObjectVersionId incrementalSelection correlationId)

/-- `except GxExecutionSourceAdapterError`. -/
def adapterError (exc : Raised) : Raised :=
  match exc.kind with
  | .sourceAdapterError statusCode => executionError exc.message statusCode
  | _ => exc

/-- The source that a suite's contract names, for a data object version. -/
def loadSource (turn : ℕ) (session : Session) (suite : GxArtifactEnvelope)
    (dataObjectVersionId : Text) (incrementalSelection : Option Dict) (correlationId : Text) :
    Except Raised Handle :=
  match suite.executionContract with
  | none => .error (suiteError suite "is missing an executionContract")
  | some contract =>
    match E.sourceAdapter with
    | some adapter =>
      (adaptSource adapter turn session suite dataObjectVersionId incrementalSelection
        correlationId).mapError adapterError
    | none =>
      if contract.executionShape ≠ some "join_pair".toList then
        match E.sourceLoader with
        | none => .error missingLoader
        | some load => load turn session dataObjectVersionId
      else
        match contract.sourceMaterialization with
        | none =>
          .error (suiteError suite "declares join_pair execution without sourceMaterialization")
        | some materialization =>
          match E.materializedSourceLoader with
          | none => .error missingMaterializedLoader
          | some load => load turn session materialization.outputLocation

/-- `_load_batch_source`: the source of the first suite. -/
def loadBatchSource (turn : ℕ) (session : Session) (batch : Batch Payload) (correlationId : Text) :
    Except Raised Handle := do
  let suite ← E.coerceSuite batch.first
  E.loadSource turn session suite batch.dataObjectVersionId batch.incrementalSelection correlationId

/-! #### Batches -/

/-- `_build_batch_performance_summary`. -/
def batchSummary (batch : Batch Payload) (suiteCount : ℕ) (metrics : Option ℤ × Option ℤ) :
    PerformanceSummary where
  executionPath := batch.executionPath
  plannerChoice := batch.plannerChoice
  suiteCount := suiteCount
  batchCount := 1
  selectedTargetCount := 1
  dataScannedRows := metrics.1
  dataScannedBytes := metrics.2

/-- The result of a suite whose batch has no source. -/
def failSuite (batch : Batch Payload) (failure : Dict) (payload : Payload) :
    Except Raised SuiteResult := do
  let suite ← E.coerceSuite payload
  let shape :=
    match suite.executionContract with
    | some contract => contract.executionShape.getD "None"
    | none => "single_object"
  suiteResultView suite batch.dataObjectVersionId shape .failed [.dict failure] [] (some failure)

/-- The runner's answer for a suite, an exception as the failure that it is reported as. -/
def validateSuite (turn position : ℕ) (session : Session) (handle : Handle)
    (suite : GxArtifactEnvelope) (dataObjectVersionId correlationId : Text) :
    Except Raised ValidationPayload :=
  let answer := do
    match E.validationRunner with
    | some run => coerceValidationPayload (← run turn position session handle suite correlationId)
    | none => throw missingRunner
  match answer with
  | .ok payload => .ok payload
  | .error exc =>
    if exc.kind = .baseException then .error exc
    else
      let failure := failureDiagnostic exc correlationId dataObjectVersionId
      .ok ⟨.failed, [.dict failure], [], some failure⟩

/-- One round of the loop over the suites of a batch. -/
def executeSuite (turn : ℕ) (session : Session) (handle : Handle) (batch : Batch Payload)
    (correlationId : Text) (payload : Payload) (position : ℕ) : Except Raised SuiteResult := do
  let suite ← E.coerceSuite payload
  let answer ← E.validateSuite turn position session handle suite batch.dataObjectVersionId
    correlationId
  match suite.executionContract with
  | none => throw attributeError
  | some contract =>
    suiteResultView suite batch.dataObjectVersionId (contract.executionShape.getD "None")
      answer.status answer.diagnostics answer.result
      (if answer.status = .failed then answer.executionFailure else none)

def executeBatch (turn : ℕ) (session : Session) (batch : Batch Payload) (correlationId : Text) :
    Except Raised BatchResult :=
  match E.loadBatchSource turn session batch correlationId with
  | .error exc =>
    if exc.kind = .baseException then .error exc
    else do
      let failure := failureDiagnostic exc correlationId batch.dataObjectVersionId
      let suiteResults ← batch.suites.mapM (E.failSuite batch failure)
      return {
        dataObjectVersionId := batch.dataObjectVersionId
        incrementalSelection := batch.incrementalSelection
        suiteCount := suiteResults.length
        status := .failed
        suiteResults := suiteResults
        diagnostics := [failure]
        performanceSummary := batchSummary batch batch.suites.length (none, none) }
  | .ok handle => do
    let metrics ← extractScanMetrics (E.entries handle)
    let (suiteResults, diagnostics) ← batch.suites.zipIdx.foldlM
      (fun (suiteResults, diagnostics) (payload, position) => do
        let result ← E.executeSuite turn session handle batch correlationId payload position
        return (suiteResults ++ [result],
          diagnostics ++ if result.status = .failed then result.diagnostics else []))
      ([], [])
    return {
      dataObjectVersionId := batch.dataObjectVersionId
      incrementalSelection := batch.incrementalSelection
      suiteCount := suiteResults.length
      status := statusOf (suiteResults.map SuiteResult.status)
      suiteResults := suiteResults
      diagnostics := diagnostics
      performanceSummary := batchSummary batch suiteResults.length metrics }

/-! #### Runs -/

def createSparkSession (turn : ℕ) : Except Raised Session :=
  match E.sparkSessionFactory turn with
  | .ok (some session) => .ok session
  | .ok none => .error (executionError "Spark session factory returned no session" 503)
  | .error exc =>
    match exc.kind with
    | .executionError => .error exc
    | .baseException => .error exc
    | _ => .error (executionError ("Unable to create Spark session: " ++ exc.message) 503)

/-- The `finally` clause: an error of `stop` replaces the outcome. -/
def stopSession (turn : ℕ) (session : Session) : Except Raised Unit :=
  if E.manageSparkSession then (E.stop turn session).getD (.ok ()) else .ok ()

/-- One round of the loop over the batches. -/
def runBatch (correlationId : Text) (batch : Batch Payload) (turn : ℕ) :
    Except Raised BatchResult := do
  let session ← E.createSparkSession turn
  let outcome := E.executeBatch turn session batch correlationId
  E.stopSession turn session
  outcome

/-- The only one of some distinct texts, `mixed` if there are several and `fallback` for none. -/
def commonText (texts : List String) (mixed fallback : String) : String :=
  match texts.dedup with
  | [] => fallback
  | [text] => text
  | _ => mixed

/-- `_sum_optional_batch_metric`. -/
def sumOptional (values : List (Option ℤ)) : Option ℤ :=
  match values.reduceOption with
  | [] => none
  | found => some found.sum

/-- `_build_run_performance_summary`. -/
def runSummary (batches : List BatchResult) : PerformanceSummary :=
  let summaries := batches.map BatchResult.performanceSummary
  if batches = [] then ⟨"empty_plan", "empty", 0, 0, 0, none, none⟩
  else {
    executionPath := commonText (summaries.map PerformanceSummary.executionPath)
      "mixed_grouped_execution" "grouped_execution"
    plannerChoice := commonText (summaries.map PerformanceSummary.plannerChoice)
      "mixed_scope" "full_scope"
    suiteCount := (batches.map BatchResult.suiteCount).sum
    batchCount := batches.length
    selectedTargetCount := (summaries.map PerformanceSummary.selectedTargetCount).sum
    dataScannedRows := sumOptional (summaries.map PerformanceSummary.dataScannedRows)
    dataScannedBytes := sumOptional (summaries.map PerformanceSummary.dataScannedBytes) }

/-- `execute_plan`, with the identifiers of the run. -/
def executePlan (runId correlationId : Text) (plan : PlanPayload Payload) :
    Except Raised RunResult := do
  let batches ← E.acceptPlan plan
  let batchResults ← batches.zipIdx.mapM fun (batch, turn) => E.runBatch correlationId batch turn
  return {
    runId := runId
    correlationId := correlationId
    suiteCount := (batchResults.map BatchResult.suiteCount).sum
    batchCount := batchResults.length
    status := statusOf (batchResults.map BatchResult.status)
    batchResults := batchResults
    diagnostics := batchResults.flatMap BatchResult.diagnostics
    performanceSummary := runSummary batchResults }

end Executor

end Execution

end DqMadeEasy
