import DqMadeEasy.Dispatch.Wire

/-!
# The engine orchestrator

`process_engine_dispatch_message` is a coroutine function. Awaited, it reports the run as running,
executes the rule payload, and reports the outcome of the response. Its two callbacks are values: it
awaits what they return, so a plain function runs first and then fails to be awaited.
-/

namespace DqMadeEasy

namespace Dispatch

open Worker

/-- A callback that its caller awaits. -/
inductive Callback (World α : Type) where
  | coroutine (f : α → Coroutine World Unit)
  | plain (f : α → Act World Unit)

/-- `await callback(argument)`. -/
def Callback.awaitCall {World α : Type} : Callback World α → α → Act World Unit
  | .coroutine f, argument => await (f argument)
  | .plain f, argument => do
    f argument
    Effect.raise (.builtin "TypeError" "object NoneType can't be used in 'await' expression")

section Shaping

variable [PyRuntime]

def explicitText (value : Json) : Option Text :=
  match value with
  | .scalar (.str t) => if t.strip = [] then none else some (PyRuntime.lower t.strip)
  | _ => none

/-- `passed` or `failed`. -/
def passedText (passed : Bool) : Text := if passed then "passed" else "failed"

/-- `result["passed"]` of a result that is a dictionary, when it is a truth value. -/
def resultPassed (result : Json) : Option Bool :=
  match result.dictOrEmpty.get "passed" with
  | .scalar (.bool b) => some b
  | _ => none

def resultStatus (payload : Dict) : Text :=
  let observability := (payload.get "observability_summary").dictOrEmpty
  let explicitStatus := (payload.get "result_status").orElse (observability.get "result")
  ((explicitText explicitStatus <|> explicitText (payload.get "result")) <|>
    (resultPassed (payload.get "result")).map passedText).getD
      (passedText (payload.get "ok").truthy)

/-- `payload.get(key, default)`. -/
def getOr (payload : Dict) (key : String) (default : Json) : Json :=
  (payload.find? key.toList).getD default

/-- An entry that carries a value of the response under its own name. -/
def carried (payload : Dict) (default : Json) (key : String) : Text × Json :=
  entry key (getOr payload key default)

/-- `metrics` of the response, or its observability summary. -/
def responseMetrics (payload : Dict) : Json :=
  match payload.get "metrics" with
  | .dict metrics => .dict metrics
  | _ => getOr payload "observability_summary" (.dict [])

def buildExecutionReportSummary (payload : Dict) (outputDir : Json) : Dict :=
  ["engine_type", "rule_id"].map (carried payload .null) ++
    [entry "result" (.scalar (.str (resultStatus payload)))] ++
    ["passed_count", "failed_count"].map (carried payload (.int 0)) ++
    ["failure_code", "failure_message"].map (carried payload .null) ++
    ["failed_check", "failure_metrics", "trace"].map (carried payload (.dict [])) ++
    [entry "summary" (.dict payload), entry "output_dir" outputDir] ++
    ["execution_metadata", "quarantine_artifact", "error_management", "observability_summary"].map
      (carried payload (.dict [])) ++
    [entry "metrics" (responseMetrics payload)]

def buildExecutionReportDetails (payload : Dict) (outputDir : Json) : Dict :=
  [entry "source" (.text "dq-engine-execution-worker")] ++
    ["engine_type", "rule_id"].map (carried payload .null) ++
    [entry "result" (.scalar (.str (resultStatus payload)))] ++
    ["passed_count", "failed_count"].map (carried payload (.int 0)) ++
    ["execution_metadata", "quarantine_artifact", "error_management", "observability_summary"].map
      (carried payload (.dict [])) ++
    [entry "output_dir" outputDir] ++
    if (payload.get "ok").truthy then []
    else
      [entry "failure_code" (payload.get "failure_code"),
        entry "failure_message" ((payload.get "failure_message").orElse (payload.get "error"))] ++
      ["failed_check", "failure_metrics", "trace"].map (carried payload (.dict []))

/-- `status` of a response. -/
def responseStatus (payload : Dict) : RunStatus :=
  if (payload.get "ok").truthy then .succeeded else .failed

/-- `failure_code` of the report of a response. -/
def responseFailureCode (payload : Dict) : Json :=
  if (payload.get "ok").truthy then .null
  else (payload.get "failure_code").orElse (.text "DQ_WORKER_EXECUTION_ERROR")

/-- `failure_message` of the report of a response. -/
def responseFailureMessage (engineType : Text) (payload : Dict) : Json :=
  if (payload.get "ok").truthy then .null
  else ((payload.get "failure_message").orElse (payload.get "error")).orElse
    (.scalar (.str (engineType ++ " execution failed")))

/-- `label` of the last two reports. -/
def responseLabel (engineType : Text) (payload : Dict) : Text :=
  engineType ++ (if (payload.get "ok").truthy then " execution completed"
    else " execution completed with failures").toList

end Shaping

/-- The identifiers of a dispatch. -/
structure Identifiers where
  runId : Text
  correlationId : Text
  requestedBy : Option Text

section Orchestrator

variable {World Frame : Type} (V : Services World Frame) [PyRuntime] [PyNumerals]

/-- The callbacks of the orchestrator. -/
structure Callbacks (World : Type) where
  reportRun : Callback World RunReport
  reportProgress : Option (Callback World ProgressReport)

/-- The `try` that starts a Kafka publisher: an exception leaves none. -/
def startKafkaPublisher : Act World Bool :=
  Effect.rescue (call V.buildKafkaPublisher) fun exc =>
    if exc.severity = .exception then pure false else Effect.raise exc

/-- The report that a run was routed to its engine. -/
def startedReport (ids : Identifiers) (engineType : Text) (rulePayload : Dict)
    (kafkaPublisher : Bool) : RunReport :=
  { runId := ids.runId, correlationId := ids.correlationId, newStatus := .running
    changedBy := ids.requestedBy
    reason := "Execution worker routed " ++ engineType ++ " execution"
    details := [entry "source" (.text "dq-engine-execution-worker"),
      entry "engine_type" (.scalar (.str engineType)), entry "rule_payload" (.dict rulePayload)]
    executionProgress :=
      some ⟨1, 2, "Invoking " ++ engineType ++ " execution"⟩
    metrics := .dict [entry "engine_type" (.scalar (.str engineType)),
      entry "stage" (.text "started")]
    kafkaPublisher }

/-- The progress report about a response. -/
def responseProgress (ids : Identifiers) (engineType : Text) (outputDir : Json)
    (response : Dict) : ProgressReport :=
  { runId := ids.runId, correlationId := ids.correlationId, changedBy := ids.requestedBy
    reason := responseLabel engineType response
    details := buildExecutionReportDetails response outputDir
    progress := ⟨2, 2, responseLabel engineType response⟩ }

/-- The report of a response. -/
def responseReport (ids : Identifiers) (engineType : Text) (outputDir : Json)
    (kafkaPublisher : Bool) (completedAt : Text) (response : Dict) : RunReport :=
  { runId := ids.runId, correlationId := ids.correlationId
    newStatus := responseStatus response, changedBy := ids.requestedBy
    reason := responseLabel engineType response
    details := buildExecutionReportDetails response outputDir
    executionProgress := some ⟨2, 2, responseLabel engineType response⟩
    completedAt := some completedAt
    resultSummary := .dict (buildExecutionReportSummary response outputDir)
    metrics := responseMetrics response
    diagnostics := (response.get "diagnostics").orElse (.list [])
    failureCode := responseFailureCode response
    failureMessage := responseFailureMessage engineType response
    kafkaPublisher }

/-- `await report_progress_fn(…)`, when there is one. -/
def awaitProgress (callback : Option (Callback World ProgressReport)) (report : ProgressReport) :
    Act World Unit :=
  match callback with
  | some callback => callback.awaitCall report
  | none => pure ()

/-- `kafka_publisher.stop()`, when there is a publisher. -/
def stopPublisher (kafkaPublisher : Bool) : Act World Unit :=
  if kafkaPublisher then call V.stopKafkaPublisher else pure ()

/-- The `try` body of `process_engine_dispatch_message`. -/
def executeAndReport (ids : Identifiers) (callbacks : Callbacks World) (payload : Dict)
    (rulePayload : Dict) (engineType : Text) (kafkaPublisher : Bool) : Act World Dict := do
  callbacks.reportRun.awaitCall (startedReport ids engineType rulePayload kafkaPublisher)
  let outputDir := payload.get "output_dir"
  let result ← call (V.executeEngineRulePayload engineType rulePayload
    (if outputDir.isNone then none else some outputDir.str) (payload.get "config").asDict?)
  let response ← Effect.ofExcept (result.asDict?.elim
    (executionError (engineType ++ " execution failed") "DQ_WORKER_EXECUTION_ERROR") .ok)
  awaitProgress callbacks.reportProgress (responseProgress ids engineType outputDir response)
  let completedAt ← utcNowIso V
  callbacks.reportRun.awaitCall
    (responseReport ids engineType outputDir kafkaPublisher completedAt response)
  pure response

def processEngineDispatchMessage (ids : Identifiers) (callbacks : Callbacks World)
    (payload : Dict) : Coroutine World Dict where
  body := do
    let rulePayload ← Effect.ofExcept ((payload.get "rule_payload").asDict?.elim
      (executionError "Execution dispatch payload is missing rule_payload"
        "DQ_DISPATCH_INVALID_PAYLOAD") .ok)
    let engineType := normalizeExecutionEngine (payload.get "engine_type").strippedText
    Effect.ofExcept (if engineType ∈ supportedExecutionEngines then .ok ()
      else executionError ("Unsupported execution dispatch engine type: " ++
        PyNumerals.stringRepr engineType) "DQ_DISPATCH_INVALID_PAYLOAD")
    call V.buildTokenProvider
    let kafkaPublisher ← startKafkaPublisher V
    Effect.finally_
      (executeAndReport V ids callbacks payload rulePayload engineType kafkaPublisher)
      (stopPublisher V kafkaPublisher)

end Orchestrator

end Dispatch

end DqMadeEasy
