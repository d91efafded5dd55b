import DqMadeEasy.Dispatch.Engine
import DqMadeEasy.Worker.Summary

/-!
# Processing a dispatch message

`process_dispatch_message` routes a message by its execution shape and its engine: a grouped scope,
another engine, a join pair or a single object. Each path reads its sources, evaluates its
expectations and ends with a call of `report_run`.

The progress reports go through the synchronous wrapper. The calls of `report_run` are statements of
their own.
-/

namespace DqMadeEasy

namespace Dispatch

open Worker

section Process

variable {World Frame : Type} (V : Services World Frame) (config : Config) [PyRuntime] [PyNumerals]

/-! ### Sources -/

def requireS3ConfigForLocation (uri : Text) : Except PyError Unit :=
  let raiseConfig (message : String) : Except PyError Unit :=
    .error (.mk .exception "dq_plan_execution_types" "DqWorkerConfigError" message.toList none none)
  if !isS3Uri uri then .ok ()
  else if config.s3Endpoint.getD [] = [] then
    raiseConfig "Missing DQ_S3_ENDPOINT/AWS_ENDPOINT_URL (required for s3:// sources)"
  else if config.s3AccessKey.getD [] = [] ∨ config.s3SecretKey.getD [] = [] then
    raiseConfig ("Missing S3 credentials for s3:// sources (set DQ_S3_ACCESS_KEY/DQ_S3_SECRET_KEY " ++
      "or AWS_ACCESS_KEY_ID/AWS_SECRET_ACCESS_KEY)")
  else .ok ()

/-- The overrides of the targets, in the first loop of `_resolve_locations_for_targets`. -/
def overrideLocations (about : String) (payload : Dict) (targetIds : List Text) :
    Except PyError (List (Text × SourceLocation)) :=
  targetIds.foldlM (fun locations targetId =>
    match Assoc.find? (extractSourceOverrides payload) targetId with
    | none => .ok locations
    | some override => do
      let location ← overrideLocation about override
      return Assoc.update targetId (fun _ => location) locations) []

/-- The second loop of `_resolve_locations_for_targets`, for one target. -/
def resolveLocation (correlationId : Text) (locations : List (Text × SourceLocation))
    (targetId : Text) : Act World (List (Text × SourceLocation)) :=
  if targetId ∈ Assoc.keys locations then pure locations
  else do
    let version ← apiGetDataObjectVersion V config targetId correlationId
    let location ← Effect.ofExcept (coerceSourceLocation version targetId)
    pure (Assoc.update targetId (fun _ => location) locations)

def resolveLocationsForTargets (correlationId : Text) (targetIds : List Text) (payload : Dict) :
    Act World (List (Text × SourceLocation)) := do
  let overridden ← Effect.ofExcept (overrideLocations "GX dispatch" payload targetIds)
  targetIds.foldlM (resolveLocation V config correlationId) overridden

/-- `locations_by_target[target_id]`. -/
def locationOf (locations : List (Text × SourceLocation)) (targetId : Text) :
    Except PyError SourceLocation :=
  convert "KeyError" "no location for the target" (Assoc.find? locations targetId)

def needsDelta (locations : List (Text × SourceLocation)) : Bool :=
  locations.any fun entry => entry.2.format == "delta"

/-- A local copy of a remote location, recorded with the open directories. -/
def localize (uri : Text) : Act World Text := do
  let path ← call (V.download uri)
  Effect.ofState fun w => (.ok path, { w with tempDirs := w.tempDirs ++ [path] })

/-- Where a URI is read from: an `s3a` location is read from its local copy. -/
def readUriOf (normalizedUri : Text) : Act World Text :=
  if "s3a://".toList.isPrefixOf normalizedUri then localize V normalizedUri else pure normalizedUri

/-- The URI of a location after its checks, and where it is read from. -/
def openSource (location : SourceLocation) : Act World (Text × Text) := do
  let normalizedUri := normalizeS3Uri location.uri
  Effect.ofExcept (assertSupportedUri normalizedUri)
  Effect.ofExcept (requireS3ConfigForLocation config normalizedUri)
  let readUri ← readUriOf V normalizedUri
  pure (normalizedUri, readUri)

/-- `_spark_read_dataset` of a location that was opened. -/
def readSource (location : SourceLocation) (readUri : Text) : Act World Frame :=
  call (V.readDataset { location with uri := readUri } config.maxRows)

/-- The directories that are open, taken from the record. -/
def takeTempDirs : Act World (List Text) :=
  Effect.ofState fun w => (.ok w.tempDirs, { w with tempDirs := [] })

/-- The `finally` of every path: the session is stopped and the directories are removed. -/
def closeSources : Act World Unit := do
  ask fun world => ((), V.stopSparkSession world)
  let tempDirs ← takeTempDirs
  tempDirs.foldlM (fun _ path => call (V.cleanup path)) ()

/-! ### Evaluation -/

/-- `evaluate_expectations_spark`. -/
def evaluate (df : Frame) (expectations : List Dict) (primaryKeyFields : List Text) :
    Act World (Bool × EvaluationSummary × List Dict) :=
  Effect.ofExcept (evaluateExpectationsSpark V.spark df expectations primaryKeyFields)

def buildEnrichedResultSummary (expectations : List Dict) (summary : EvaluationSummary)
    (diagnostics : List Dict) : Act World Dict := do
  let now ← utcNowIso V
  Effect.ofExcept (buildSummary now expectations summary.passedExpectationCount
    summary.failedExpectationCount summary.rowCount diagnostics summary.ruleResults)

/-- The diagnostics of a source, with where they come from. -/
def annotate (annotations : Dict) (diagnostics : List Dict) : List Dict :=
  diagnostics.map fun diagnostic => diagnostic.merge annotations

def targetAnnotations (targetId normalizedUri : Text) (location : SourceLocation) : Dict :=
  [entry "data_object_version_id" (.scalar (.str targetId)),
    entry "storage_uri" (.scalar (.str normalizedUri)),
    entry "storage_format" (.scalar (.str location.format))]

/-! ### Progress and terminal reports -/

/-- A report of progress under the identifiers of the dispatch. -/
def reportProgress (ids : Identifiers) (reason : String) (details : Dict)
    (completedSteps totalSteps : ℕ) (label : String) : Act World Unit :=
  apiReportExecutionProgress V
    { runId := ids.runId, correlationId := ids.correlationId, changedBy := ids.requestedBy
      reason := reason.toList, details := entry "source" (.text "dq-engine-gx-worker") :: details
      progress := ⟨completedSteps, totalSteps, label.toList⟩ }

/-- The texts of the last report of a path. -/
structure Closing where
  completed : String
  completedLabel : String
  details : Dict
  failureMessage : String

/-- The report that a path ends with. -/
def closingReport (ids : Identifiers) (closing : Closing) (totalSteps : ℕ) (completedAt : Text)
    (ok : Bool) (diagnostics : List Dict) (resultSummary : Dict) : RunReport :=
  let source := entry "source" (.text "dq-engine-gx-worker")
  let withFailures := if ok then "" else " with failures"
  { runId := ids.runId, correlationId := ids.correlationId
    newStatus := if ok then .succeeded else .failed
    changedBy := ids.requestedBy
    reason := (closing.completed ++ withFailures).toList
    details := if ok then source :: closing.details
      else source :: closing.details ++ [entry "failure_count" (.int diagnostics.length)]
    executionProgress := some ⟨totalSteps, totalSteps, (closing.completedLabel ++ withFailures).toList⟩
    completedAt := some completedAt
    resultSummary := .dict resultSummary
    diagnostics := .list (if ok then [] else diagnostics.map .dict)
    failureCode := if ok then .null else .text "GX_VALIDATION_FAILED"
    failureMessage := if ok then .null else .text closing.failureMessage }

/-- The end of a path: `report_run(…)`, a statement of its own. -/
def close (ids : Identifiers) (closing : Closing) (totalSteps : ℕ) (ok : Bool)
    (diagnostics : List Dict) (resultSummary : Dict) : Act World Unit := do
  let completedAt ← utcNowIso V
  discard (reportRun V
    (closingReport ids closing totalSteps completedAt ok diagnostics resultSummary))

/-! ### Grouped scope -/

/-- What the grouped loops accumulate. -/
structure GroupedState where
  allOk : Bool
  allDiagnostics : List Dict
  batchResults : List Dict
  totalSuiteCount : ℕ

/-- What the loop over the suites of a batch accumulates. -/
structure BatchState where
  grouped : GroupedState
  batchOk : Bool
  suiteResults : List Dict

/-- `GxWorkerExecutionError(…, failure_code="GX_DISPATCH_INVALID_PAYLOAD")`. -/
def invalidPayload {α : Type} (message : Text) : Act World α :=
  Effect.ofExcept (executionError message "GX_DISPATCH_INVALID_PAYLOAD")

/-- `rule_ids` of a suite. -/
def compiledRuleIds (suite : Dict) : List Text :=
  match (suite.get "compiled_from").dictOrEmpty.get "rule_ids" with
  | .list ruleIds => strippedTexts ruleIds
  | _ => []

def expectDict (value : Json) (message : Text) : Except PyError Dict :=
  value.asDict?.elim (executionError message "GX_DISPATCH_INVALID_PAYLOAD") .ok

/-- The loop body over the suites of a batch. -/
def processSuite (df : Frame) (targetId normalizedUri : Text) (location : SourceLocation)
    (state : BatchState) (suitePayload : Json) : Act World BatchState := do
  let suite ← Effect.ofExcept (expectDict suitePayload ("Grouped GX dispatch batch '" ++
    targetId ++ "' contains an invalid suite envelope"))
  let (expectations, suiteTargets, primaryKeyFields) ← Effect.ofExcept (assertRunnableSuite suite)
  Effect.ofExcept (if targetId ∈ suiteTargets then .ok ()
    else executionError ("Grouped GX dispatch suite is not attached to target '" ++
      targetId ++ "'") "GX_DISPATCH_INVALID_PAYLOAD")
  let (ok, summary, diagnostics) ← evaluate V df expectations primaryKeyFields
  let suiteId : Json := .scalar (.str (if (suite.get "suite_id").truthy then
    (suite.get "suite_id").str else []))
  let suiteVersion ← Effect.ofExcept (toInt ((suite.get "suite_version").orElse (.int 0)))
  -- The rule results of the summary share the diagnostics, which the source annotates afterwards.
  let annotated := annotate (targetAnnotations targetId normalizedUri location ++
    [entry "suite_id" suiteId, entry "suite_version" (.int suiteVersion)]) diagnostics
  let enriched ← buildEnrichedResultSummary V expectations summary annotated
  let suiteResult : Dict :=
    [entry "suite_id" suiteId, entry "suite_version" (.int suiteVersion),
      entry "rule_ids" (texts (compiledRuleIds suite)), entry "ok" (.scalar (.bool ok)),
      entry "summary" (.dict enriched)]
  pure
    { grouped := { state.grouped with
        allOk := state.grouped.allOk && ok
        allDiagnostics := state.grouped.allDiagnostics ++ annotated
        totalSuiteCount := state.grouped.totalSuiteCount + 1 }
      batchOk := state.batchOk && ok
      suiteResults := state.suiteResults ++ [suiteResult] }

/-- The suites of a batch, which may not be empty. -/
def batchSuites (batch : Dict) (targetId : Text) : Except PyError (List Json) :=
  match (batch.get "suites").asList?.getD [] with
  | [] => executionError ("Grouped GX dispatch batch '" ++ targetId ++
      "' does not include any suite envelopes") "GX_DISPATCH_INVALID_PAYLOAD"
  | suite :: suites => .ok (suite :: suites)

/-- The target of a batch, which may not be blank. -/
def batchTarget (batch : Dict) : Except PyError Text :=
  let targetId := (batch.get "data_object_version_id").strippedText
  if targetId = [] then
    executionError "Grouped GX dispatch batch is missing data_object_version_id"
      "GX_DISPATCH_INVALID_PAYLOAD"
  else .ok targetId

/-- The result of a batch. -/
def batchResult (targetId normalizedUri : Text) (location : SourceLocation)
    (state : BatchState) : Dict :=
  targetAnnotations targetId normalizedUri location ++
    [entry "suite_count" (.int state.suiteResults.length),
      entry "suite_results" (.list (state.suiteResults.map .dict)),
      entry "ok" (.scalar (.bool state.batchOk))]

/-- The loop body over the batches. -/
def processBatch (ids : Identifiers) (locations : List (Text × SourceLocation))
    (batchCount : ℕ) (state : GroupedState) (indexed : Json × ℕ) : Act World GroupedState := do
  let batch ← Effect.ofExcept (expectDict indexed.1 "Grouped GX dispatch batch is invalid")
  let targetId ← Effect.ofExcept (batchTarget batch)
  let suites ← Effect.ofExcept (batchSuites batch targetId)
  let location ← Effect.ofExcept (locationOf locations targetId)
  let (normalizedUri, readUri) ← openSource V config location
  let df ← readSource V config location readUri
  let final ← suites.foldlM (processSuite V df targetId normalizedUri location) ⟨state, true, []⟩
  reportProgress V ids "GX worker evaluated a grouped batch"
    [entry "batch_index" (.int indexed.2)] (indexed.2 + 1) (batchCount + 1)
    ("Evaluated grouped batch " ++ toString indexed.2 ++ " of " ++ toString batchCount)
  pure { final.grouped with
    batchResults := final.grouped.batchResults ++
      [batchResult targetId normalizedUri location final] }

/-- The texts of the last report of a grouped dispatch. -/
def groupedClosing : Closing where
  completed := "GX worker completed grouped execution"
  completedLabel := "Grouped execution completed"
  details := [entry "selection_mode" (.text "grouped_scope")]
  failureMessage := "One or more grouped-scope expectations failed"

/-- `batches` of the grouped plan of a payload. -/
def groupedBatches (payload : Dict) : Except PyError (List Json) :=
  match (payload.get "grouped_execution_plan").asDict? with
  | none => executionError "Grouped GX dispatch payload is missing grouped_execution_plan"
      "GX_DISPATCH_INVALID_PAYLOAD"
  | some plan =>
    match (plan.get "batches").asList?.getD [] with
    | [] => executionError "Grouped GX dispatch payload is missing execution batches"
        "GX_DISPATCH_INVALID_PAYLOAD"
    | batch :: batches => .ok (batch :: batches)

/-- The targets of the batches, which may not all be blank. -/
def groupedTargets (batches : List Json) : Except PyError (List Text) :=
  let targetIds := (batches.filterMap fun batch => batch.asDict?.map fun batch =>
    (batch.get "data_object_version_id").strippedText).filter (· ≠ [])
  if targetIds = [] then
    executionError
      "Grouped GX dispatch payload does not define any data_object_version_id targets"
      "GX_DISPATCH_INVALID_PAYLOAD"
  else .ok targetIds

def processGroupedDispatchMessage (ids : Identifiers) (payload : Dict) : Act World Unit := do
  let batches ← Effect.ofExcept (groupedBatches payload)
  call V.buildTokenProvider
  let totalSteps := batches.length + 1
  reportProgress V ids "GX worker started grouped execution" [entry "dispatch" (.dict payload)]
    0 totalSteps "Queued for grouped execution"
  let targetIds ← Effect.ofExcept (groupedTargets batches)
  let locations ← resolveLocationsForTargets V config ids.correlationId targetIds payload
  reportProgress V ids "GX worker resolved grouped execution inputs" [] 1 totalSteps
    ("Resolved " ++ toString batches.length ++ " grouped batches")
  call (V.createSparkSession (needsDelta locations))
  let final ← Effect.finally_
    ((batches.zipIdx 1).foldlM (processBatch V config ids locations batches.length)
      ⟨true, [], [], 0⟩)
    (closeSources V)
  close V ids groupedClosing totalSteps final.allOk final.allDiagnostics
    [entry "selection_mode" (.text "grouped_scope"),
      entry "batch_count" (.int final.batchResults.length),
      entry "suite_count" (.int final.totalSuiteCount),
      entry "results" (.list (final.batchResults.map .dict))]

/-! ### Other engines -/

/-- `_process_spark_expectations_dispatch_message`. The orchestrator is called without `await`, and
the rest reads its coroutine as if it were the response. -/
def processSparkExpectationsDispatchMessage (ids : Identifiers) (payload : Dict) :
    Act World Unit := do
  let responsePayload := processEngineDispatchMessage V ids
    ⟨.coroutine (reportRun V), some (.plain (apiReportExecutionProgress V))⟩ payload
  let _ ← responsePayload.get "engine_type"
  let _ ← responsePayload.get "ok"
  pure ()

/-! ### A suite from the API -/

/-- The one location that all overrides of a join pair give. -/
def agreedLocation (first : SourceLocation) (rest : List SourceLocation) :
    Except PyError SourceLocation :=
  if rest.all fun other => other.uri == first.uri && other.format == first.format &&
      sameOptions other.options first.options then .ok first
  else executionError
    "GX join_pair execution received conflicting source overrides across targets"
    "GX_WORKER_INVALID_SOURCE_OVERRIDE"

/-- The location that the suite's contract materializes. -/
def materializedLocation (envelope : Dict) : Except PyError SourceLocation :=
  match sourceMaterialization envelope with
  | none => executionError ("GX join_pair execution requires source_materialization in the " ++
      "suite execution contract").toList "GX_WORKER_MISSING_SOURCE_LOCATION"
  | some materialization =>
    inferMaterializedSourceLocation (materialization.get "output_location").strippedText

def resolveJoinPairLocation (payload envelope : Dict) (targetIds : List Text) :
    Except PyError SourceLocation := do
  let candidates ← (targetIds.filterMap (Assoc.find? (extractSourceOverrides payload))).mapM
    (overrideLocation "GX dispatch join_pair")
  match candidates with
  | first :: rest => agreedLocation first rest
  | [] => materializedLocation envelope

def resolveJoinPairReportStorageUri (payload envelope : Dict) (targetIds : List Text)
    (location : SourceLocation) : Text :=
  let overrideUris := (targetIds.filterMap (Assoc.find? (extractSourceOverrides payload))).map
    fun override => (override.get "uri").strippedText
  let outputLocation := ((sourceMaterialization envelope).map fun materialization =>
    (materialization.get "output_location").strippedText).toList
  ((overrideUris ++ outputLocation).find? (· ≠ [])).getD location.uri

/-- The targets after `executionScopeOverride`. -/
def overrideScope (payload : Dict) (targetIds : List Text) : Except PyError (List Text) :=
  match (payload.get "executionScopeOverride").orElse (payload.get "execution_scope_override") with
  | .list values =>
    let override := strippedTexts values
    if override = [] then .ok targetIds
    else if override.any (· ∉ targetIds) then
      executionError
        "GX dispatch executionScopeOverride contains target(s) not attached to the suite"
        "GX_WORKER_INVALID_SCOPE_OVERRIDE"
    else .ok override
  | _ => .ok targetIds

/-- A runnable suite of a dispatch. -/
structure SuiteRun where
  suiteId : Text
  suiteVersion : ℤ
  envelope : Dict
  expectations : List Dict
  targetIds : List Text
  primaryKeyFields : List Text

/-- The result summary of a suite. -/
def suiteResultSummary (suite : SuiteRun) (results : List Dict) : Dict :=
  [entry "suite_id" (.scalar (.str suite.suiteId)),
    entry "suite_version" (.int suite.suiteVersion),
    entry "target_count" (.int suite.targetIds.length),
    entry "results" (.list (results.map .dict))]

/-- The `try` body of a join pair: what was evaluated. -/
def evaluateJoinPair (ids : Identifiers) (suite : SuiteRun) (location : SourceLocation)
    (normalizedUri : Text) : Act World (Bool × EvaluationSummary × List Dict) := do
  let readUri ← readUriOf V normalizedUri
  let df ← readSource V config location readUri
  let outcome ← evaluate V df suite.expectations suite.primaryKeyFields
  reportProgress V ids "GX worker evaluated join-pair source"
    [entry "execution_shape" (.text "join_pair")] 2 2 "Evaluated joined source materialization"
  pure outcome

/-- The texts of the last report of a join pair. -/
def joinPairClosing : Closing where
  completed := "GX worker completed join-pair execution"
  completedLabel := "Execution completed"
  details := [entry "execution_shape" (.text "join_pair")]
  failureMessage := "One or more expectations failed"

/-- The join-pair path. The session is created before the URI is checked. -/
def processJoinPair (ids : Identifiers) (payload : Dict) (suite : SuiteRun) : Act World Unit := do
  let location ← Effect.ofExcept (resolveJoinPairLocation payload suite.envelope suite.targetIds)
  reportProgress V ids "GX worker resolved join-pair source"
    [entry "execution_shape" (.text "join_pair")] 1 2 "Resolved joined source materialization"
  call (V.createSparkSession (location.format == "delta"))
  let normalizedUri := normalizeS3Uri location.uri
  Effect.ofExcept (assertSupportedUri normalizedUri)
  Effect.ofExcept (requireS3ConfigForLocation config normalizedUri)
  let (ok, summary, diagnostics) ← Effect.finally_
    (evaluateJoinPair V config ids suite location normalizedUri) (closeSources V)
  let enriched ← buildEnrichedResultSummary V suite.expectations summary diagnostics
  let storageUri := resolveJoinPairReportStorageUri payload suite.envelope suite.targetIds location
  close V ids joinPairClosing 2 ok diagnostics (suiteResultSummary suite
    [[entry "data_object_version_id" (suite.targetIds.head?.elim .null fun t => .scalar (.str t)),
      entry "storage_uri" (.scalar (.str storageUri)),
      entry "storage_format" (.scalar (.str location.format)), entry "ok" (.scalar (.bool ok)),
      entry "summary" (.dict enriched)]])

/-- What the loop over the targets accumulates. -/
structure TargetState where
  allOk : Bool
  perTargetResults : List Dict
  allDiagnostics : List Dict

/-- The loop body over the targets. -/
def processTarget (ids : Identifiers) (suite : SuiteRun)
    (locations : List (Text × SourceLocation)) (state : TargetState) (indexed : Text × ℕ) :
    Act World TargetState := do
  let location ← Effect.ofExcept (locationOf locations indexed.1)
  let (normalizedUri, readUri) ← openSource V config location
  let df ← readSource V config location readUri
  let (ok, summary, diagnostics) ← evaluate V df suite.expectations suite.primaryKeyFields
  let annotations := targetAnnotations indexed.1 normalizedUri location
  let annotated := annotate annotations diagnostics
  let enriched ← buildEnrichedResultSummary V suite.expectations summary annotated
  reportProgress V ids "GX worker evaluated a source target"
    [entry "target_index" (.int indexed.2)] (indexed.2 + 1) (suite.targetIds.length + 1)
    ("Evaluated source target " ++ toString indexed.2 ++ " of " ++
      toString suite.targetIds.length)
  pure
    { allOk := state.allOk && ok
      perTargetResults := state.perTargetResults ++
        [annotations ++ [entry "ok" (.scalar (.bool ok)), entry "summary" (.dict enriched)]]
      allDiagnostics := state.allDiagnostics ++ annotated }

/-- The texts of the last report of a single object. -/
def singleClosing : Closing where
  completed := "GX worker completed execution"
  completedLabel := "Execution completed"
  details := []
  failureMessage := "One or more expectations failed"

/-- The single-object path. -/
def processSingleObject (ids : Identifiers) (payload : Dict) (suite : SuiteRun) :
    Act World Unit := do
  let locations ← resolveLocationsForTargets V config ids.correlationId suite.targetIds payload
  let totalSteps := suite.targetIds.length + 1
  reportProgress V ids "GX worker resolved execution inputs" [] 1 totalSteps
    ("Resolved " ++ toString suite.targetIds.length ++ " source targets")
  call (V.createSparkSession (needsDelta locations))
  let final ← Effect.finally_
    ((suite.targetIds.zipIdx 1).foldlM (processTarget V config ids suite locations) ⟨true, [], []⟩)
    (closeSources V)
  close V ids singleClosing totalSteps final.allOk final.allDiagnostics
    (suiteResultSummary suite final.perTargetResults)

/-- The report that a suite is started, built like any other report. -/
def runningReport (ids : Identifiers) (payload : Dict) (startedAt : Text) : RunReport :=
  { runId := ids.runId, correlationId := ids.correlationId, newStatus := .running
    changedBy := ids.requestedBy, reason := "GX worker started execution"
    details := [entry "source" (.text "dq-engine-gx-worker"), entry "dispatch" (.dict payload)]
    executionProgress := some ⟨0, 1, "Queued for execution"⟩
    startedAt := some startedAt }

/-- The join-pair and single-object paths, for an execution shape. -/
def processSuiteDispatch (ids : Identifiers) (executionShape suiteId : Text) (suiteVersion : ℤ)
    (payload : Dict) : Act World Unit := do
  call V.buildTokenProvider
  let startedAt ← utcNowIso V
  discard (reportRun V (runningReport ids payload startedAt))
  let envelope ← apiGetSuiteEnvelope V config suiteId suiteVersion ids.correlationId
  let (expectations, resolved, primaryKeyFields) ← Effect.ofExcept (assertRunnableSuite envelope)
  let targetIds ← Effect.ofExcept (overrideScope payload resolved)
  let suite : SuiteRun :=
    ⟨suiteId, suiteVersion, envelope, expectations, targetIds, primaryKeyFields⟩
  if executionShape = "join_pair" then processJoinPair V config ids payload suite
  else processSingleObject V config ids payload suite

/-! ### Routing -/

/-- The correlation identifier of a payload, or a fresh one. -/
def correlationIdOf (payload : Dict) : Act World Text :=
  let given := coerceStr payload ["correlation_id"]
  if given = [] then do
    let hex ← ask V.freshHex
    pure ("corr-" ++ hex)
  else pure given

/-- `coerce_str(payload, "requested_by") or None`. -/
def requestedByOf (payload : Dict) : Option Text :=
  let requestedBy := coerceStr payload ["requested_by"]
  if requestedBy = [] then none else some requestedBy

/-- `run_id` of a payload. -/
def runIdOf (payload : Dict) : Text := coerceStr payload ["run_id", "queue_message_id"]

/-- `execution_shape` of a payload, a single object by default. -/
def executionShapeOf (payload : Dict) : Text :=
  let executionShape := coerceStr payload ["execution_shape"]
  if executionShape = [] then "single_object" else executionShape

def engineTypeOf (payload : Dict) : Text :=
  normalizeExecutionEngine (coerceStr payload ["engine_type"])

/-- The routing of a parsed payload. -/
def routePayload (payload : Dict) (ids : Identifiers) : Act World Unit :=
  if executionShapeOf payload = "grouped_scope".toList then
    if ids.runId = [] then
      invalidPayload
        "GX dispatch payload is missing required run_id for grouped execution".toList
    else processGroupedDispatchMessage V config ids payload
  else if engineTypeOf payload ∈ supportedExecutionEngines.filter (· ≠ "gx".toList) then
    processSparkExpectationsDispatchMessage V ids payload
  else
    let suiteId := coerceStr payload ["suite_id"]
    let suiteVersion := coerceInt payload ["suite_version"]
    if ids.runId = [] ∨ suiteId = [] ∨ suiteVersion ≤ 0 then
      invalidPayload ("GX dispatch payload is missing required identifiers " ++
        "(run_id/suite_id/suite_version)").toList
    else processSuiteDispatch V config ids (executionShapeOf payload) suiteId suiteVersion payload

def processDispatchMessage (rawMessage : Text) : Act World Unit := do
  let payload ← Effect.ofExcept (parseDispatchPayload V.json rawMessage)
  let correlationId ← correlationIdOf V payload
  routePayload V config payload ⟨runIdOf payload, correlationId, requestedByOf payload⟩

end Process

end Dispatch

end DqMadeEasy
