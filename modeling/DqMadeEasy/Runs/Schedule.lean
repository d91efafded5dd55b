import DqMadeEasy.Dispatch.Grouped
import DqMadeEasy.Logic.Program
import DqMadeEasy.Runs.ResultEvent

/-!
# Scheduling runs

A request for a run asks which runs are active, creates its own and puts a message for it into the
queue. Each of these is a call that it awaits, so a request is a program of calls, and the other
requests of the process go on between two of them.
-/

namespace DqMadeEasy

namespace Runs

open Artifacts Worker

/-! ### Errors -/

/-- What a use case raises: an `HTTPException` with its detail, or another exception. -/
inductive ApiError where
  | http (statusCode : ℕ) (detail : Dict)
  | raised (exc : PyError)

namespace ApiError

/-- `except Exception` catches it. -/
def isException : ApiError → Bool
  | .http _ _ => true
  | .raised exc => exc.severity = .exception

/-- `exc.__class__.__name__`. -/
def className : ApiError → Text
  | .http _ _ => "HTTPException"
  | .raised exc => exc.className.toList

/-- `HTTPException` is caught on its own. -/
def isHttp : ApiError → Bool
  | .http _ _ => true
  | .raised _ => false

end ApiError

/-- The detail of an `HTTPException`. -/
def errorDetail (error message : String) (rest : Dict) : Dict :=
  entry "error" (.text error) :: entry "message" (.text message) :: rest

/-! ### Dispatch payloads -/

/-- `GxDispatchPayloadEntity`: its dump by alias, without `None`, and the entity of its execution
contract. -/
structure DispatchPayload where
  fields : Dict
  executionContract : Option GxExecutionContract

/-- A field that is `str | None`. -/
def textField (fields : Dict) (key : String) : Option Text :=
  match fields.get key with
  | .scalar (.str t) => some t
  | _ => none

/-- `a or b or ""`. -/
def textOr (a b : Option Text) : Text :=
  match a with
  | some (c :: cs) => c :: cs
  | _ => b.getD []

namespace DispatchPayload

def runId (payload : DispatchPayload) : Option Text := textField payload.fields "run_id"

def queueMessageId (payload : DispatchPayload) : Option Text :=
  textField payload.fields "queue_message_id"

def suiteId (payload : DispatchPayload) : Option Text := textField payload.fields "suite_id"

def suiteVersion (payload : DispatchPayload) : Option ℤ := (payload.fields.get "suite_version").asInt?

def queueKey (payload : DispatchPayload) : Option Text := textField payload.fields "queue_key"

def createdId (payload : DispatchPayload) : Text := textOr payload.runId payload.queueMessageId

def reportedId (payload : DispatchPayload) : Text := textOr payload.queueMessageId payload.runId

def set (payload : DispatchPayload) (key : String) (value : Json) : DispatchPayload :=
  { payload with fields := payload.fields.insert key.toList value }

def withTraceHeaders (inject : Dict → Dict) (payload : DispatchPayload) : DispatchPayload :=
  payload.set "headers" (.dict (inject (payload.fields.get "headers").dictOrEmpty))

end DispatchPayload

section Payloads

variable [PyRuntime]

/-- `_dispatch_engine_type`. -/
def DispatchPayload.engineType (payload : DispatchPayload) : Option Text :=
  (normalizedText (textField payload.fields "engine_type")).map PyRuntime.lower

/-- `_required_dispatch_engine_type`. -/
def DispatchPayload.requiredEngineType (payload : DispatchPayload) (context : String) :
    Except ApiError Text :=
  payload.engineType.elim (.error (.http 422 (errorDetail "missing_engine_type"
    (context ++ " requires explicit engine_type")
    [entry "run_id" (optText payload.runId),
      entry "correlation_id" (payload.fields.get "correlation_id")]))) .ok

def assertExecutionContractEngineType (contract : GxExecutionContract) (expected : Text)
    (context : String) (runId : Text) (correlationId : Json) : Except ApiError Unit :=
  let actual := PyRuntime.lower (Planner.stripped contract.engineType)
  let rest := [entry "run_id" (.scalar (.str runId)), entry "correlation_id" correlationId]
  if actual = [] then .error (.http 422 (errorDetail "missing_engine_type"
    (context ++ " requires execution_contract.engine_type") rest))
  else if actual ≠ expected then .error (.http 422 (errorDetail "engine_type_mismatch"
    (context ++ " requires matching engine_type across dispatch and execution_contract")
    (entry "engine_type" (.scalar (.str expected)) ::
      entry "execution_contract_engine_type" (.scalar (.str actual)) :: rest)))
  else .ok ()

end Payloads

/-! ### Calls -/

/-- The filters of `list_runs` that the guard sets. -/
structure RunQuery where
  suiteId : Option Text
  status : RunStatus

/-- What a request awaits. -/
inductive Call where
  | assertDispatchWorker (redisUrl queueKey : Text)
  | assertJoinPairMaterializationWorker (redisUrl queueKey : Text)
  | listRuns (query : RunQuery)
  | createRun (create : RunCreate)
  | enqueuePayload (redisUrl queueKey : Text) (payload : DispatchPayload)
  | recordRunStatusTransition (transition : StatusTransition)

/-- The values that calls return. The run that a writing method returns is not read. -/
def Call.Answer (Time : Type) : Call → Type
  | .listRuns _ => List (RunEntity Time)
  | .assertDispatchWorker .. | .assertJoinPairMaterializationWorker .. | .createRun _
  | .enqueuePayload .. | .recordRunStatusTransition _ => Unit

abbrev Request (Time α : Type) := Program Call (Call.Answer Time) ApiError α

namespace Request

variable {Time : Type}

def assertDispatchWorker (redisUrl queueKey : Text) : Request Time Unit :=
  Program.perform (Call.assertDispatchWorker redisUrl queueKey)

def assertJoinPairMaterializationWorker (redisUrl queueKey : Text) : Request Time Unit :=
  Program.perform (Call.assertJoinPairMaterializationWorker redisUrl queueKey)

def listRuns (query : RunQuery) : Request Time (List (RunEntity Time)) :=
  Program.perform (Call.listRuns query)

def createRun (create : RunCreate) : Request Time Unit := Program.perform (Call.createRun create)

def enqueuePayload (redisUrl queueKey : Text) (payload : DispatchPayload) : Request Time Unit :=
  Program.perform (Call.enqueuePayload redisUrl queueKey payload)

def recordRunStatusTransition (transition : StatusTransition) : Request Time Unit :=
  Program.perform (Call.recordRunStatusTransition transition)

end Request

/-! ### The guard -/

/-- What a request is for. -/
structure Identity where
  runPlanId : Option Text
  suiteId : Option Text
  suiteVersion : Option ℤ

section Guard

variable [PyRuntime] [PyNumerals] {Time : Type}

def runPlanIdOf (fields : Dict) : Option Text :=
  nonBlank (mappingValue fields "runPlanId" "run_plan_id").strippedText

def activeRunPlanId (run : RunContent Time) : Option Text := run.handoffPayload.bind runPlanIdOf

def dispatchIdentityForConflict (payload : DispatchPayload) : Identity where
  runPlanId := runPlanIdOf payload.fields
  suiteId := normalizedText payload.suiteId
  suiteVersion := payload.suiteVersion

/-- The runs that the guard takes for one of the same object. -/
def Identity.conflicts (guard : Identity) (run : RunContent Time) : Bool :=
  run.status.active &&
    match normalizedText guard.runPlanId, normalizedText guard.suiteId with
    | some runPlanId, _ => activeRunPlanId run == some runPlanId
    | none, some suiteId => Planner.stripped run.suiteId == suiteId &&
        (guard.suiteVersion.isNone || run.suiteVersion == guard.suiteVersion)
    | none, none => false

omit [PyRuntime] [PyNumerals] in
/-- `_raise_active_gx_execution_conflict`. -/
def activeConflict (guard : Identity) (run : RunEntity Time) : ApiError :=
  .http 409 (errorDetail "gx_execution_already_active"
    "GX execution is already active for this object"
    [entry "run_plan_id" (optText (normalizedText guard.runPlanId)),
      entry "suite_id" (optText (normalizedText guard.suiteId)),
      entry "suite_version" (optInt guard.suiteVersion),
      entry "active_run_id" (.scalar (.str run.id.strip)),
      entry "active_run_status" (.scalar (.str run.status.text))])

omit [PyRuntime] [PyNumerals] in
def Identity.query (guard : Identity) (status : RunStatus) : RunQuery where
  suiteId := if (normalizedText guard.runPlanId).isSome then none else normalizedText guard.suiteId
  status := status

def assertNoActiveGxExecutionConflict (guard : Identity) : Request Time Unit :=
  if (normalizedText guard.runPlanId).isNone && (normalizedText guard.suiteId).isNone then pure ()
  else do
    let pending ← Request.listRuns (guard.query .pending)
    let running ← Request.listRuns (guard.query .running)
    match (pending ++ running).find? fun run => guard.conflicts run.toRunContent with
    | some run => .raise (activeConflict guard run)
    | none => .done ()

end Guard

/-! ### Suite dispatches -/

/-- `EnqueueScheduledGxSuiteRunCommand`. -/
structure EnqueueScheduledGxSuiteRunCommand where
  suite : GxArtifactEnvelope
  requestedBy : Option Text
  statusSource : Text
  statusReason : Text
  runPlanId : Option Text
  executionScopeOverride : List Text
  sourceOverrides : Dict
  correlationId : Option Text
  queueKey : Text
  joinPairMaterializationQueueKey : Text

/-- The callables that a use case is given and does not await. -/
structure Callables where
  resolveRedisUrl : Option Text
  injectTraceCarrier : Dict → Dict
  mapPersistenceError : Text → Text → Text → ApiError → ApiError

/-- `build_dispatch_payload` with the arguments of a command, and `_as_dispatch_payload_entity` of
what it returns: the payload of a correlation id. -/
abbrev BuildDispatchPayload := Text → Except ApiError DispatchPayload

/-- The identity that the guard of a suite dispatch is given. -/
def EnqueueScheduledGxSuiteRunCommand.identity (command : EnqueueScheduledGxSuiteRunCommand) :
    Identity where
  runPlanId := command.runPlanId
  suiteId := normalizedText (some command.suite.suiteId)
  suiteVersion := some command.suite.suiteVersion

section Suite

variable [PyRuntime] [PyNumerals]

omit [PyRuntime] [PyNumerals] in
def suiteRequiresJoinPairMaterialization (suite : GxArtifactEnvelope) (hasSourceOverride : Bool) :
    Bool :=
  match suite.executionContract with
  | none => false
  | some contract =>
    Planner.stripped contract.executionShape = "join_pair" && !hasSourceOverride

omit [PyRuntime] [PyNumerals] in
def buildJoinPairMaterializationHandoffPayload (payload : DispatchPayload) (queueKey : Text) :
    Except ApiError DispatchPayload :=
  match payload.executionContract.bind GxExecutionContract.sourceMaterialization with
  | none => .error (.http 422 (errorDetail "gx_suite_not_runnable"
      "GX join_pair execution requires source_materialization before ETL enqueue"
      [entry "reason" (.text "missing_source_materialization"),
        entry "suite_id" (optText payload.suiteId),
        entry "suite_version" (optInt payload.suiteVersion)]))
  | some _ => .ok (((payload.set "queue_key" (.scalar (.str queueKey))).set
      "materialization_job_type" (.text "join_pair_materialization")).set
      "next_dispatch_payload" (.dict payload.fields))

/-- The details of a status, of a suite dispatch. -/
def suiteStatusDetails (command : EnqueueScheduledGxSuiteRunCommand) (payload : DispatchPayload)
    (engineType : Text) : Dict :=
  [entry "source" (.scalar (.str command.statusSource)),
    entry "dispatch_mode" (payload.fields.get "dispatch_mode"),
    entry "queue_key" (optText payload.queueKey),
    entry "queue_message_id" (optText payload.queueMessageId),
    entry "handoff_status" (payload.fields.get "handoff_status"),
    entry "handoff_ready" (payload.fields.get "handoff_ready"),
    entry "scheduled_at" (payload.fields.get "scheduled_at"),
    entry "engine_type" (.scalar (.str engineType))] ++
  (if command.executionScopeOverride = [] then []
    else [entry "execution_scope_override" (texts command.executionScopeOverride)]) ++
  (if command.sourceOverrides = [] then []
    else [entry "source_overrides_by_data_object_version_id" (.dict command.sourceOverrides)]) ++
  ((payload.fields.get "next_dispatch_payload").asDict?.elim [] fun next =>
    [entry "pre_dispatch_phase" (.text "join_pair_materialization"),
      entry "next_queue_key" (next.get "queue_key")])

/-- `build_execution_run_create_entity_for_suite_dispatch`. -/
def buildRunCreateForSuiteDispatch (command : EnqueueScheduledGxSuiteRunCommand)
    (payload : DispatchPayload) : Except ApiError RunCreate := do
  let contract ← (payload.executionContract.or command.suite.executionContract).elim
    (.error (.http 400 [entry "detail" (.scalar (.str ("GX suite '" ++
      (normalizedText (some command.suite.suiteId)).getD "unknown-suite" ++
      "' is missing an execution_contract")))])) .ok
  let engineType ← payload.requiredEngineType "GX suite dispatch"
  assertExecutionContractEngineType contract engineType "GX suite dispatch" payload.createdId
    (payload.fields.get "correlation_id")
  let details := suiteStatusDetails command payload engineType
  return {
    runId := payload.createdId
    suiteId := if truthyText payload.suiteId then payload.suiteId
      else normalizedText (some command.suite.suiteId)
    suiteVersion := payload.suiteVersion.or (some command.suite.suiteVersion)
    ruleId := normalizedText (contract.traceability.bind Traceability.ruleId)
    ruleVersionId := normalizedText (contract.traceability.bind Traceability.ruleVersionId)
    correlationId := (textField payload.fields "correlation_id").getD []
    requestedBy := command.requestedBy
    engineType
    engineTarget := (textField payload.fields "engine_target").getD []
    executionShape := (textField payload.fields "execution_shape").getD []
    status := .pending
    submittedAt := (textField payload.fields "submitted_at").getD []
    startedAt := none
    completedAt := none
    executionProgress := none
    executionContract := some contract
    handoffPayload := some (payload.set "status_details" (.dict details)).fields
    resultSummary := [entry "results" (.list [])]
    metrics := none
    diagnostics := []
    failureCode := none
    failureMessage := none
    comments := none
    performanceSummary := none
    statusReason := some command.statusReason
    statusDetails := details }

variable {Time : Type}

omit [PyRuntime] [PyNumerals] in
/-- The payload that is enqueued: for a join pair, the one of the materialization that comes
before it. -/
def acceptPayload (callables : Callables) (command : EnqueueScheduledGxSuiteRunCommand)
    (redisUrl : Text) (payload : DispatchPayload) : Request Time DispatchPayload :=
  if suiteRequiresJoinPairMaterialization command.suite (command.sourceOverrides ≠ []) then do
    Request.assertJoinPairMaterializationWorker redisUrl command.joinPairMaterializationQueueKey
    let accepted ← Program.ofExcept (buildJoinPairMaterializationHandoffPayload
      (payload.withTraceHeaders callables.injectTraceCarrier)
      command.joinPairMaterializationQueueKey)
    return accepted.withTraceHeaders callables.injectTraceCarrier
  else return payload.withTraceHeaders callables.injectTraceCarrier

/-- The creation of the run, with its handler. -/
def createSuiteRun (callables : Callables) (command : EnqueueScheduledGxSuiteRunCommand)
    (correlationId : Text) (accepted : DispatchPayload) : Request Time Unit :=
  Program.rescue
    (fun exc => .raise (if exc.isException then callables.mapPersistenceError
      ((normalizedText (some command.suite.suiteId)).getD "unknown-suite")
      accepted.reportedId correlationId exc else exc))
    (do
      let create ← Program.ofExcept (buildRunCreateForSuiteDispatch command accepted)
      Request.createRun create)

omit [PyRuntime] [PyNumerals] in
/-- The transition that compensates for a message that was not enqueued. -/
def enqueueFailed (command : EnqueueScheduledGxSuiteRunCommand) (accepted : DispatchPayload)
    (exc : ApiError) : StatusTransition where
  runId := accepted.reportedId
  newStatus := .failed
  changedBy := command.requestedBy
  reason := some "GX dispatch queue enqueue failed"
  details := [entry "source" (.scalar (.str command.statusSource)),
    entry "exception" (.scalar (.str exc.className)),
    entry "queue_key" (optText accepted.queueKey),
    entry "dispatch_mode" (accepted.fields.get "dispatch_mode")]
  executionProgress := none
  startedAt := none
  completedAt := none
  resultSummary := none
  metrics := none
  performanceSummary := none
  diagnostics := none
  failureCode := none
  failureMessage := none

omit [PyRuntime] [PyNumerals] in
/-- The push of the message, with its handler. -/
def enqueueSuiteRun (command : EnqueueScheduledGxSuiteRunCommand) (redisUrl correlationId : Text)
    (accepted : DispatchPayload) : Request Time Unit :=
  Program.rescue
    (fun exc =>
      if exc.isException then do
        Request.recordRunStatusTransition (enqueueFailed command accepted exc)
        Program.raise (.http 503 (errorDetail "dispatch_enqueue_failed"
          "Unable to enqueue GX dispatch"
          [entry "suite_id" (optText (normalizedText (some command.suite.suiteId))),
            entry "queue_key" (optText accepted.queueKey),
            entry "queue_message_id" (optText accepted.queueMessageId),
            entry "correlation_id" (.scalar (.str correlationId)),
            entry "exception" (.scalar (.str exc.className))]))
      else .raise exc)
    (Request.enqueuePayload redisUrl (accepted.queueKey.getD []) accepted)

/-- `enqueue_scheduled_gx_suite_run` to the payload that it accepts, with the address of the queue and
the correlation id: the given one, else a fresh one. -/
def prepareSuiteRun (callables : Callables) (build : BuildDispatchPayload) (fresh : Text)
    (command : EnqueueScheduledGxSuiteRunCommand) : Request Time (Text × Text × DispatchPayload) :=
  match callables.resolveRedisUrl with
  | none | some [] => .raise (.http 503 (errorDetail "dispatch_queue_unavailable"
      "GX dispatch queue is not configured"
      [entry "suite_id" (optText (normalizedText (some command.suite.suiteId)))]))
  | some (c :: cs) => do
    let redisUrl : Text := c :: cs
    Request.assertDispatchWorker redisUrl command.queueKey
    let correlationId := textOr command.correlationId (some fresh)
    let payload ← Program.ofExcept (build correlationId)
    assertNoActiveGxExecutionConflict command.identity
    let accepted ← acceptPayload callables command redisUrl payload
    return (redisUrl, correlationId, accepted)

def enqueueScheduledGxSuiteRun (callables : Callables) (build : BuildDispatchPayload)
    (fresh : Text) (command : EnqueueScheduledGxSuiteRunCommand) :
    Request Time DispatchPayload := do
  let (redisUrl, correlationId, accepted) ← prepareSuiteRun callables build fresh command
  createSuiteRun callables command correlationId accepted
  enqueueSuiteRun command redisUrl correlationId accepted
  return accepted

end Suite

/-! ### Grouped dispatches -/

/-- `CreateGroupedScopeGxRunCommand`: what the use case reads besides the arguments that it hands to
`build_dispatch_payload`. -/
structure CreateGroupedScopeGxRunCommand where
  suiteEngineTypes : List (Option Text)
  deliveryEngineType : Option Text
  requestedBy : Option Text
  correlationId : Option Text
  queueKey : Text

section Grouped

variable [PyRuntime] [PyNumerals]

omit [PyNumerals] in
def groupedDispatchEngineTypes (command : CreateGroupedScopeGxRunCommand) : List Text :=
  (((command.suiteEngineTypes ++ [command.deliveryEngineType]).filterMap normalizedText).map
    PyRuntime.lower).eraseDups

omit [PyNumerals] in
def assertGroupedDispatchEngineSupported (command : CreateGroupedScopeGxRunCommand) :
    Except ApiError Unit :=
  match groupedDispatchEngineTypes command with
  | [] => .ok ()
  | [engineType] =>
    if engineType = "gx" then .ok ()
    else .error (.http 422 (entry "error" (.text "unsupported_engine_type") ::
      entry "message" (.scalar (.str ("GX grouped dispatch does not support engine_type '" ++
        engineType ++ "'"))) :: [entry "engine_type" (.scalar (.str engineType))]))
  | engineTypes => .error (.http 422 (errorDetail "mixed_engine_types"
      "GX grouped dispatch requires a single engine_type"
      [entry "engine_types" (texts (Sorted.sortOn id engineTypes))]))

/-- `build_execution_run_create_entity_for_grouped_dispatch`. -/
def buildRunCreateForGroupedDispatch (requestedBy : Option Text) (statusSource statusReason : Text)
    (payload : DispatchPayload) : Except ApiError RunCreate := do
  let engineType ← payload.requiredEngineType "GX grouped dispatch"
  let plan := (payload.fields.get "grouped_execution_plan").dictOrEmpty
  let details : Dict := [entry "source" (.scalar (.str statusSource)),
    entry "handoff_status" (payload.fields.get "handoff_status"),
    entry "handoff_ready" (payload.fields.get "handoff_ready"),
    entry "queue_key" (optText payload.queueKey),
    entry "queue_message_id" (optText payload.queueMessageId),
    entry "dispatch_mode" (payload.fields.get "dispatch_mode"),
    entry "scheduled_at" (payload.fields.get "scheduled_at"),
    entry "selection_mode" (.text "grouped_scope"),
    entry "engine_type" (.scalar (.str engineType))]
  return {
    runId := payload.createdId
    suiteId := none
    suiteVersion := none
    ruleId := none
    ruleVersionId := none
    correlationId := (textField payload.fields "correlation_id").getD []
    requestedBy
    engineType
    engineTarget := textOr (textField payload.fields "engine_target") (some "pyspark")
    executionShape := "grouped_scope"
    status := .pending
    submittedAt := (textField payload.fields "submitted_at").getD []
    startedAt := none
    completedAt := none
    executionProgress := none
    executionContract := some {
      engineType := some engineType
      engineTarget := none
      executionShape := none
      traceability := none
      sourceMaterialization := none
      resolvedDataObjectVersionId := none
      resolvedDataDeliveryId := none
      resolvedDeliveryLocation := none
      deliveryResolutionMode := none
      selectionMode := some "grouped_scope"
      scopeSelector := (payload.fields.get "scope_selector").dictOrEmpty
      suiteRefs := ((payload.fields.get "suite_refs").asList?.getD []).filterMap Json.asDict?
      suiteCount := (plan.get "suite_count").asInt?
      batchCount := (plan.get "batch_count").asInt?
      extra := [] }
    handoffPayload := some (payload.set "status_details" (.dict details)).fields
    resultSummary := [entry "results" (.list [])]
    metrics := none
    diagnostics := []
    failureCode := none
    failureMessage := none
    comments := none
    performanceSummary := none
    statusReason := some statusReason
    statusDetails := details }

variable {Time : Type}

def persistGroupedDispatchRun (requestedBy : Option Text) (statusSource statusReason : Text)
    (payload : DispatchPayload) : Request Time Unit := do
  assertNoActiveGxExecutionConflict (dispatchIdentityForConflict payload)
  let create ← Program.ofExcept
    (buildRunCreateForGroupedDispatch requestedBy statusSource statusReason payload)
  Request.createRun create

omit [PyRuntime] [PyNumerals] in
/-- The handler of a grouped dispatch: an `HTTPException` passes. -/
def groupedError (statusCode : ℕ) (detail : String) (exc : ApiError) : ApiError :=
  if exc.isHttp || !exc.isException then exc
  else .http statusCode [entry "detail" (.text detail)]

/-- `create_grouped_scope_gx_run` to the payload that is built, with the address of the queue. -/
def prepareGroupedRun (callables : Callables) (build : BuildDispatchPayload) (fresh : Text)
    (command : CreateGroupedScopeGxRunCommand) : Request Time (Text × DispatchPayload) := do
  Program.ofExcept (assertGroupedDispatchEngineSupported command)
  match callables.resolveRedisUrl with
  | none | some [] => .raise (.http 503 (errorDetail "dispatch_queue_unavailable"
      "GX dispatch queue is not configured" []))
  | some (c :: cs) => do
    let redisUrl : Text := c :: cs
    Request.assertDispatchWorker redisUrl command.queueKey
    let payload ← Program.ofExcept (build (textOr command.correlationId (some fresh)))
    return (redisUrl, payload)

def createGroupedScopeGxRun (callables : Callables) (build : BuildDispatchPayload) (fresh : Text)
    (statusSource statusReason : Text) (command : CreateGroupedScopeGxRunCommand) :
    Request Time DispatchPayload := do
  let (redisUrl, payload) ← prepareGroupedRun callables build fresh command
  Program.rescue (fun exc => .raise (groupedError 500 "Failed to persist grouped GX run" exc))
    (persistGroupedDispatchRun command.requestedBy statusSource statusReason payload)
  Program.rescue
    (fun exc => .raise (groupedError 503 "Failed to enqueue grouped GX dispatch payload" exc))
    (Request.enqueuePayload redisUrl (textOr payload.queueKey (some command.queueKey)) payload)
  return payload

end Grouped

/-! ### A sample dispatch -/

/-- A queue is configured. -/
def sampleCallables : Callables := ⟨some "redis", id, fun _ _ _ exc => exc⟩

/-- The payload of a grouped dispatch for one run plan. -/
def samplePayload (runId : String) : DispatchPayload where
  fields := [entry "run_id" (.text runId), entry "queue_message_id" (.text runId),
    entry "correlation_id" (.text "corr"), entry "engine_type" (.text "gx"),
    entry "queue_key" (.text "queue"), entry "run_plan_id" (.text "plan")]
  executionContract := none

/-- A grouped dispatch. -/
def sampleGrouped : CreateGroupedScopeGxRunCommand where
  suiteEngineTypes := [some "gx"]
  deliveryEngineType := none
  requestedBy := none
  correlationId := none
  queueKey := "queue"

end Runs

end DqMadeEasy
