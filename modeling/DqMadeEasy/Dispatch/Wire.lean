import DqMadeEasy.Dispatch.Payload
import DqMadeEasy.Logic.Effect

/-!
# Requests and reports

The worker's side of the wire. Every request to the API is recorded with its answer, so what was
reported about a run is what the record says and nothing else. Calling a coroutine function builds a
coroutine and sends nothing; its body runs when it is awaited or handed to `asyncio.run`.

The services that the worker reaches, the API included, answer from a world of their own that every
call may change.
-/

namespace DqMadeEasy

namespace Dispatch

open Worker

/-- `new_status` of a report. -/
inductive RunStatus where
  | running | succeeded | failed
  deriving DecidableEq, Repr

/-- `succeeded` and `failed` end a run. -/
def RunStatus.terminal : RunStatus → Bool
  | .running => false
  | .succeeded => true
  | .failed => true

/-- What `build_execution_progress` was given. -/
structure Progress where
  completedSteps : ℕ
  totalSteps : ℕ
  label : Text

/-- The keyword arguments of `report_run`. -/
structure RunReport where
  runId : Text
  correlationId : Text
  newStatus : RunStatus
  changedBy : Option Text
  reason : Text
  details : Dict
  executionProgress : Option Progress := none
  startedAt : Option Text := none
  completedAt : Option Text := none
  resultSummary : Json := .null
  metrics : Json := .null
  diagnostics : Json := .null
  failureCode : Json := .null
  failureMessage : Json := .null
  /-- A Kafka publisher is given. -/
  kafkaPublisher : Bool := false

/-- `api_payload`: the report without its diagnostics, which are only counted. -/
structure ApiPayload where
  newStatus : RunStatus
  changedBy : Option Text
  reason : Text
  details : Dict
  executionProgress : Option Progress
  startedAt : Option Text
  completedAt : Option Text
  resultSummary : Json
  metrics : Json
  violationCount : ℕ
  diagnosticsCount : ℕ
  failureCode : Json
  failureMessage : Json

/-- A request to the API. -/
inductive Request where
  | suite (suiteId : Text) (suiteVersion : ℤ)
  | dataObjectVersion (versionId : Text)
  | report (runId : Text) (payload : ApiPayload)

namespace Request

def method : Request → Text
  | .suite _ _ | .dataObjectVersion _ => "GET"
  | .report _ _ => "POST"

/-- The path below the API address. -/
def path : Request → Text
  | .suite suiteId _ => "/rulebuilder/v1/gx/suites/" ++ suiteId
  | .dataObjectVersion versionId => "/data-catalog/v1/data-object-versions/" ++ versionId
  | .report runId _ => "/rulebuilder/v1/gx/runs/" ++ runId ++ "/report"

end Request

/-- An exception of a library: it is not one of the worker's own, so it has no failure code. -/
def LibraryError := { exc : PyError // exc.failure = none }

/-- What came back: a response with its decoded body, a `RequestException`, or another exception. -/
inductive Answer where
  | response (statusCode : ℕ) (text : Text) (body : Json)
  | unreachable (exc : LibraryError)
  | raised (exc : LibraryError)

/-- A request with its answer. -/
structure Exchange where
  request : Request
  answer : Answer

namespace Exchange

def reported (exchange : Exchange) (runId : Text) : Option RunStatus :=
  match exchange.request with
  | .report id payload => if id = runId then some payload.newStatus else none
  | _ => none

def endsRun (exchange : Exchange) (runId : Text) : Bool :=
  (exchange.reported runId).elim false RunStatus.terminal

/-- The API took the request. -/
def accepted (exchange : Exchange) : Bool :=
  match exchange.answer with
  | .response statusCode _ _ => decide (statusCode < 400)
  | _ => false

/-- A report about a run that the API does not know. -/
def unknownRun (exchange : Exchange) (runId : Text) : Bool :=
  (exchange.reported runId).isSome &&
    match exchange.answer with
    | .response statusCode _ _ => statusCode == 404
    | _ => false

end Exchange

/-- The settings of the worker that the dispatch reads. -/
structure Config where
  apiUrl : Text
  maxRows : ℤ
  s3Endpoint : Option Text
  s3AccessKey : Option Text
  s3SecretKey : Option Text

/-- What the worker calls outside its own code. -/
structure Services (World Frame : Type) where
  /-- `json.loads`. -/
  json : Text → Except PyError Json
  /-- `utc_now_iso`. -/
  now : World → Text × World
  /-- `uuid4().hex[:12]`. -/
  freshHex : World → Text × World
  /-- `_build_token_provider`. -/
  buildTokenProvider : World → Except PyError Unit × World
  /-- `token_provider.get_token`. -/
  getToken : Text → World → Except LibraryError Unit × World
  /-- `requests.request`. -/
  request : Request → World → Answer × World
  /-- `build_kafka_publisher` and its start: whether there is a publisher. -/
  buildKafkaPublisher : World → Except PyError Bool × World
  /-- `publisher.publish_violations`. -/
  publishViolations : Json → World → Except PyError Unit × World
  /-- `publisher.stop`. -/
  stopKafkaPublisher : World → Except PyError Unit × World
  /-- `_create_spark_session`, with the Delta extension or without. -/
  createSparkSession : Bool → World → Except PyError Unit × World
  /-- `_safe_stop_spark_session`. -/
  stopSparkSession : World → World
  /-- `_download_s3a_prefix_to_tempdir`: the local path. -/
  download : Text → World → Except PyError Text × World
  /-- `tmpdir.cleanup`. -/
  cleanup : Text → World → Except PyError Unit × World
  /-- `_spark_read_dataset` of a location, with a row limit. -/
  readDataset : SourceLocation → ℤ → World → Except PyError Frame × World
  /-- The data-frame library. -/
  spark : Spark Frame
  /-- `execute_engine_rule_payload`. -/
  executeEngineRulePayload : Text → Dict → Option Text → Option Dict → World →
    Except PyError Json × World

/-- The state of a worker process: the world, the record of its requests, the temporary directories
it has open, and whether an event loop is running. -/
structure Wire (World : Type) where
  world : World
  exchanges : List Exchange
  tempDirs : List Text
  loopRunning : Bool

/-- Code of the worker. -/
abbrev Act (World : Type) := Effect (Wire World) PyError

/-- A coroutine that was built and not yet awaited. -/
structure Coroutine (World α : Type) where
  body : Act World α

section Transport

variable {World Frame : Type} (V : Services World Frame)

def call {α : Type} (service : World → Except PyError α × World) : Act World α :=
  Effect.ofState fun w => ((service w.world).1, { w with world := (service w.world).2 })

def getToken (correlationId : Text) : Act World Unit :=
  call fun world =>
    ((V.getToken correlationId world).1.mapError Subtype.val, (V.getToken correlationId world).2)

def ask {α : Type} (service : World → α × World) : Act World α :=
  call fun world => (.ok (service world).1, (service world).2)

/-- `requests.request`, recorded. -/
def send (request : Request) : Act World Answer :=
  Effect.ofState fun w =>
    (.ok (V.request request w.world).1,
      { w with
        world := (V.request request w.world).2
        exchanges := w.exchanges ++ [⟨request, (V.request request w.world).1⟩] })

/-- `asyncio.run`: the body of the coroutine, unless an event loop is already running. -/
def asyncioRun {α : Type} (coroutine : Coroutine World α) : Act World α :=
  Effect.ofState fun w =>
    if w.loopRunning then
      (.error (.builtin "RuntimeError" "asyncio.run() cannot be called from a running event loop"), w)
    else
      let final := coroutine.body.run { w with loopRunning := true }
      (final.1, { final.2 with loopRunning := false })

def await {α : Type} (coroutine : Coroutine World α) : Act World α := coroutine.body

/-- A coroutine in a statement of its own: it is built and dropped. -/
def discard {α : Type} (_ : Coroutine World α) : Act World Unit := pure ()

/-- `coroutine.get(key)`: a coroutine has no such attribute. -/
def Coroutine.get {α : Type} (_ : Coroutine World α) (_ : String) : Act World Json :=
  Effect.raise (.builtin "AttributeError" "'coroutine' object has no attribute 'get'")

def utcNowIso : Act World Text := ask V.now

/-- What `api_request` makes of an answer. -/
def apiResult : Answer → Except PyError Json
  | .raised exc => .error exc.val
  | .unreachable exc =>
    .error (.execution (String.ofList ("API request failed: " ++ exc.val.message))
      "DQ_API_REQUEST_FAILED" none (some exc.val))
  | .response statusCode text body =>
    if 400 ≤ statusCode then
      .error (.execution
        ("API request failed with " ++ toString statusCode ++ ": " ++ String.ofList text)
        "DQ_API_REQUEST_FAILED" (some statusCode) none)
    else .ok body

/-- `api_request` of the execution layer. -/
def apiRequest (correlationId : Text) (request : Request) : Act World Json := do
  getToken V correlationId
  let answer ← send V request
  Effect.ofExcept (apiResult answer)

/-- What `_api_request` makes of a response. -/
def gxApiResult (request : Request) : Answer → Except PyError Json
  | .raised exc | .unreachable exc => .error exc.val
  | .response statusCode _ body =>
    if 400 ≤ statusCode then
      .error (.execution (String.ofList ("API request failed: " ++ request.method ++
          ' ' :: request.path ++ " -> " ++ (toString statusCode).toList))
        "GX_API_REQUEST_FAILED" (some statusCode) none)
    else .ok body

/-- The `except Exception` of `_api_request`. -/
def gxApiUnavailable (config : Config) (exc : PyError) : Act World Answer :=
  if exc.severity = .exception then
    Effect.raise (.execution
      ("GX worker cannot reach API via Kong at '" ++ String.ofList config.apiUrl ++ "'")
      "GX_API_UNAVAILABLE" none (some exc))
  else Effect.raise exc

/-- The `try` of `_api_request`: the headers and the request. -/
def gxApiSend (correlationId : Text) (request : Request) : Act World Answer := do
  getToken V correlationId
  let answer ← send V request
  match answer with
  | .raised exc | .unreachable exc => Effect.raise exc.val
  | .response statusCode text body => pure (.response statusCode text body)

/-- `_api_request` of the dispatch worker. -/
def gxApiRequest (config : Config) (correlationId : Text) (request : Request) :
    Act World Json := do
  let answer ← Effect.rescue (gxApiSend V correlationId request) (gxApiUnavailable config)
  Effect.ofExcept (gxApiResult request answer)

/-- `len(value)`. -/
def pyLen : Json → Except PyError ℕ
  | .list items => .ok items.length
  | .dict entries => .ok entries.length
  | .scalar (.str t) => .ok t.length
  | .scalar _ => .error (.builtin "TypeError" "object has no len()")

/-- `api_payload` of a report with a number of violations. -/
def RunReport.apiPayload (report : RunReport) (violationCount : ℕ) : ApiPayload :=
  { newStatus := report.newStatus, changedBy := report.changedBy, reason := report.reason
    details := report.details, executionProgress := report.executionProgress
    startedAt := report.startedAt, completedAt := report.completedAt
    resultSummary := report.resultSummary, metrics := report.metrics
    violationCount, diagnosticsCount := min violationCount 100
    failureCode := report.failureCode, failureMessage := report.failureMessage }

/-- The diagnostics as violations: `diagnostics if diagnostics else []`. -/
def RunReport.violations (report : RunReport) : Json :=
  if report.diagnostics.truthy then report.diagnostics else .list []

/-- `await publish_violations_to_kafka(…)`, when there is a publisher and there are violations. -/
def publishViolations (report : RunReport) : Act World Unit :=
  if report.kafkaPublisher && report.violations.truthy then
    call (V.publishViolations report.violations)
  else pure ()

/-- `report_run`, a coroutine function. -/
def reportRun (report : RunReport) : Coroutine World Unit where
  body := do
    publishViolations V report
    let violationCount ← Effect.ofExcept (pyLen report.violations)
    let _ ← apiRequest V report.correlationId
      (.report report.runId (report.apiPayload violationCount))
    pure ()

def runReportRun (report : RunReport) : Act World Unit := asyncioRun (reportRun V report)

/-- The keyword arguments of `_api_report_execution_progress`. -/
structure ProgressReport where
  runId : Text
  correlationId : Text
  changedBy : Option Text
  reason : Text
  details : Dict
  progress : Progress

def apiReportExecutionProgress (report : ProgressReport) : Act World Unit :=
  runReportRun V
    { runId := report.runId, correlationId := report.correlationId, newStatus := .running
      changedBy := report.changedBy, reason := report.reason, details := report.details
      executionProgress := some report.progress }

def apiGetSuiteEnvelope (config : Config) (suiteId : Text) (suiteVersion : ℤ)
    (correlationId : Text) : Act World Dict := do
  let payload ← gxApiRequest V config correlationId (.suite suiteId suiteVersion)
  Effect.ofExcept (payload.asDict?.elim
    (executionError "API returned invalid GX suite envelope" "GX_SUITE_INVALID_ENVELOPE")
    .ok)

def apiGetDataObjectVersion (config : Config) (versionId correlationId : Text) :
    Act World Dict := do
  let payload ← gxApiRequest V config correlationId (.dataObjectVersion versionId)
  Effect.ofExcept (payload.asDict?.elim
    (executionError ("API returned invalid data object version payload for '" ++
      versionId ++ "'") "GX_WORKER_MISSING_SOURCE_LOCATION")
    .ok)

end Transport

end Dispatch

end DqMadeEasy
