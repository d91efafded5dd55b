import DqMadeEasy.Dispatch.Process
import DqMadeEasy.Logic.Outcome

/-!
# The join-pair materialization worker

A job joins two datasets, writes the result and pushes the follow-up dispatch to the queue of the
dispatch worker. What the worker does with one job is a program of calls: to the API, to Spark and
the object store, and to Redis. Every call may fail, and the process may stop between two of them.
-/

namespace DqMadeEasy

namespace Dispatch

namespace JoinPair

open Worker

/-- What the worker calls, one job at a time. -/
inductive Call (Frame : Type) where
  /-- `_api_report_execution_progress`. -/
  | reportProgress (report : ProgressReport)
  /-- `_api_get_data_object_version`. -/
  | getDataObjectVersion (versionId correlationId : Text)
  /-- `_create_spark_session`. -/
  | createSparkSession (enableDelta : Bool)
  /-- `_spark_read_dataset`. -/
  | readDataset (location : SourceLocation)
  /-- `right_df.filter(…)`, for the window of actuality dates of the left side. -/
  | filterRight (left right : Frame) (leftAttribute rightAttribute : Text) (tolerance : ℤ)
    (unit : Text)
  /-- `left_df.join(…).select(…)`. -/
  | join (left right : Frame) (joinKeyPairs : List (Text × Text)) (joinType : Text)
  /-- `_ensure_bucket_exists`. -/
  | ensureBucketExists (bucket : Text)
  /-- Writing Parquet files to a temporary directory and uploading it. -/
  | uploadParquet (df : Frame) (bucket keyPrefix : Text)
  /-- `df.write.format("delta").mode("overwrite").save(uri)`. -/
  | saveDelta (df : Frame) (uri : Text)
  /-- `df.count()`. -/
  | count (df : Frame)
  /-- `spark.stop()`. -/
  | stopSpark
  /-- `redis_client.lpush`. -/
  | lpush (queueKey message : Text)
  /-- `_utc_now_iso`. -/
  | now
  /-- `_api_report_run`. -/
  | reportRun (report : RunReport)
  /-- `redis_client.lrem(processing_queue_key, 1, raw_job)`. -/
  | lrem (rawJob : Text)

/-- The type of the answer of a call. -/
abbrev Call.Answer (Frame : Type) : Call Frame → Type
  | .getDataObjectVersion .. => Dict
  | .readDataset _ | .filterRight .. | .join .. => Frame
  | .count _ => ℤ
  | .now => Text
  | .reportProgress _ | .createSparkSession _ | .ensureBucketExists _ | .uploadParquet ..
  | .saveDelta .. | .stopSpark | .lpush .. | .reportRun _ | .lrem _ => Unit

/-- What the worker does with a job. -/
abbrev Work (Frame α : Type) := Program (Call Frame) (Call.Answer Frame) PyError α

def make {Frame : Type} (call : Call Frame) : Work Frame (call.Answer Frame) := .perform call

/-- What the worker computes with and is configured by. -/
structure Environment (Frame : Type) where
  /-- `json.loads`. -/
  json : Text → Except PyError Json
  /-- `json.dumps`. -/
  dumps : Json → Text
  /-- `df.columns`. -/
  columns : Frame → List Text
  /-- `os.getenv`. -/
  getenv : Text → Option Text
  config : Config

/-- `except Exception`. -/
def exceptException {Frame α : Type} (handler : PyError → Work Frame α) (work : Work Frame α) :
    Work Frame α :=
  work.rescue fun exc => if exc.severity = .exception then handler exc else .raise exc

section Contract

variable [PyRuntime] [PyNumerals]

def normalizeLocation (location : SourceLocation) : SourceLocation where
  uri := normalizeS3Uri location.uri.strip
  format := PyRuntime.lower location.format.strip
  options := location.options

def requireMapping (sourceMaterialization : Dict) : Except PyError (List (Text × Text)) :=
  let joinKeyPairs := ((sourceMaterialization.get "join_key_pairs").asList?.getD []).filterMap
    fun item => item.asDict?.bind fun item =>
      let leftAttribute := (item.get "left_attribute").strippedText
      let rightAttribute := (item.get "right_attribute").strippedText
      if leftAttribute ≠ [] ∧ rightAttribute ≠ [] then some (leftAttribute, rightAttribute)
      else none
  let joinKeys := (((sourceMaterialization.get "join_keys").asList?.getD []).map
    Json.strippedText).filter (· ≠ [])
  if joinKeyPairs ≠ [] then .ok joinKeyPairs
  else if joinKeys = [] then
    executionError "GX join-pair materialization requires non-empty join keys"
      "GX_JOIN_PAIR_ETL_INVALID_CONTRACT"
  else .ok (joinKeys.map fun key => (key, key))

def joinTypes : List (Text × Text) :=
  [("inner", "inner"), ("left", "left"),
    ("right", "right"), ("full", "outer"),
    ("outer", "outer")]

def resolveJoinType (joinType : Text) : Except PyError Text :=
  let given : Text := if joinType = [] then "inner" else joinType
  match Assoc.find? joinTypes (PyRuntime.lower (Text.strip given)) with
  | some name => .ok name
  | none =>
    executionError ("Unsupported join_type '" ++ joinType ++
      "' for join-pair materialization") "GX_JOIN_PAIR_ETL_INVALID_CONTRACT"

/-- `interval_unit_map`. -/
def intervalUnits : List (Text × Text) :=
  [("minutes", "minute"), ("hours", "hour"),
    ("days", "day")]

def parseS3aUri (uri : Text) : Except PyError (Text × Text) :=
  let unsupported (message : Text) : Except PyError (Text × Text) :=
    executionError message "GX_WORKER_UNSUPPORTED_STORAGE_URI"
  if !"s3a://".toList.isPrefixOf uri.strip then
    unsupported ("Expected an s3a:// URI, got '" ++ uri ++ "'")
  else
    let remainder := uri.strip.drop 6
    let bucket := Text.strip (remainder.takeWhile (· ≠ '/'))
    if bucket = [] then
      unsupported ("Invalid s3a:// URI '" ++ uri ++ "' (missing bucket)")
    else .ok (bucket, (remainder.dropWhile (· ≠ '/')).drop 1)

/-- `run_id`, `correlation_id` and `requested_by` of a job. -/
def identifiersOf (payload : Dict) : Identifiers :=
  let runId := ((payload.get "run_id").orElse (payload.get "queue_message_id")).strippedText
  let fallback := "corr-" ++ runId
  let given := payload.get "correlation_id"
  let correlationId := (if given.truthy then given.str else fallback).strip
  let requestedBy := (payload.get "requested_by").strippedText
  { runId
    correlationId := if correlationId = [] then fallback else correlationId
    requestedBy := if requestedBy = [] then none else some requestedBy }

/-- What a job asks for. -/
structure Job where
  sourceMaterialization : Dict
  nextDispatchPayload : Dict
  nextQueueKey : Text
  leftVersionId : Text
  rightVersionId : Text

/-- The checks at the beginning of `_process_job`. -/
def readJob (payload : Dict) : Except PyError Job :=
  let invalid {α : Type} (message failureCode : String) : Except PyError α :=
    executionError ("Join-pair materialization " ++ message.toList) failureCode
  if (identifiersOf payload).runId = [] then
    invalid "payload is missing run_id" "GX_JOIN_PAIR_ETL_INVALID_PAYLOAD"
  else
    let executionContract := (payload.get "execution_contract").dictOrEmpty
    if (executionContract.get "execution_shape").strippedText ≠ "join_pair" then
      invalid "worker received a non-join_pair execution payload"
        "GX_JOIN_PAIR_ETL_INVALID_PAYLOAD"
    else match (executionContract.get "source_materialization").asDict? with
      | none =>
        invalid "payload is missing source_materialization" "GX_JOIN_PAIR_ETL_INVALID_CONTRACT"
      | some sourceMaterialization =>
        match (payload.get "next_dispatch_payload").asDict? with
        | none =>
          invalid "payload is missing next_dispatch_payload" "GX_JOIN_PAIR_ETL_INVALID_PAYLOAD"
        | some nextDispatchPayload =>
          let nextQueueKey := (nextDispatchPayload.get "queue_key").strippedText
          if nextQueueKey = [] then
            invalid "payload is missing next_dispatch_payload.queue_key"
              "GX_JOIN_PAIR_ETL_INVALID_PAYLOAD"
          else
            match (sourceMaterialization.get "left_source").asDict?,
              (sourceMaterialization.get "right_source").asDict? with
            | some leftSource, some rightSource =>
              let leftVersionId := (leftSource.get "data_object_version_id").strippedText
              let rightVersionId := (rightSource.get "data_object_version_id").strippedText
              if leftVersionId = [] ∨ rightVersionId = [] then
                invalid "requires left and right data_object_version_id values"
                  "GX_JOIN_PAIR_ETL_INVALID_CONTRACT"
              else
                .ok ⟨sourceMaterialization, nextDispatchPayload, nextQueueKey, leftVersionId,
                  rightVersionId⟩
            | _, _ =>
              invalid "requires left_source and right_source" "GX_JOIN_PAIR_ETL_INVALID_CONTRACT"

end Contract

section Processing

variable {Frame : Type} (env : Environment Frame) [PyRuntime] [PyNumerals]

/-- A progress report of the worker. -/
def progress (ids : Identifiers) (reason label : String) (details : Dict) (completedSteps : ℕ) :
    Work Frame Unit :=
  make (.reportProgress
    { runId := ids.runId, correlationId := ids.correlationId, changedBy := ids.requestedBy
      reason := reason.toList
      details := entry "source" (.text "dq-engine-join-pair-etl-worker") :: details
      progress := ⟨completedSteps, 3, label.toList⟩ })

/-- The location of a side of the join. -/
def sourceLocation (ids : Identifiers) (versionId : Text) : Work Frame SourceLocation := do
  let version : Dict ← make (.getDataObjectVersion versionId ids.correlationId)
  let location ← Program.ofExcept (coerceSourceLocation version versionId)
  pure (normalizeLocation location)

/-- A call of `_resolve_optional_bool_env(name)` with these arguments. -/
def resolveOptionalBoolEnv : List Json → Except PyError (Option Bool)
  | [.scalar (.str name)] =>
    .ok (((env.getenv name).filter fun raw => raw.strip ≠ []).map fun raw =>
      decide (PyRuntime.lower raw.strip ∈
        ["1", "true", "yes", "y", "on"].map String.toList))
  | args =>
    .error (.builtin "TypeError"
      ("_resolve_optional_bool_env() takes 1 positional argument but " ++ toString args.length ++
        " were given"))

/-- The flag of the pre-filter, asked for with a default that the function does not take. -/
def actualityPreFilterEnabled : Except PyError (Option Bool) :=
  resolveOptionalBoolEnv env
    [.text "DQ_JOIN_PAIR_ACTUALITY_PRE_FILTER_ENABLED", .scalar (.bool false)]

/-- `_apply_actuality_date_pre_filter`: the right side. -/
def applyActualityDatePreFilter (left right : Frame) (sourceMaterialization : Dict) :
    Work Frame Frame := do
  let enabled ← Program.ofExcept (actualityPreFilterEnabled env)
  let actuality := (sourceMaterialization.get "actualityDate").dictOrEmpty
  let leftAttribute := (actuality.get "leftAttribute").strippedText
  let rightAttribute := (actuality.get "rightAttribute").strippedText
  let toleranceValue := actuality.get "resolvedToleranceValue"
  let toleranceUnit := PyRuntime.lower (actuality.get "resolvedToleranceUnit").strippedText
  if enabled ≠ some true ∨ actuality.isEmpty then pure right
  else if leftAttribute = [] ∨ rightAttribute = [] ∨ toleranceValue.truthy = false ∨
      toleranceUnit = [] then pure right
  else if leftAttribute ∉ env.columns left ∨ rightAttribute ∉ env.columns right then pure right
  else
    match Assoc.find? intervalUnits toleranceUnit, toleranceValue.toInt? with
    | some unit, some tolerance =>
      exceptException (fun _ => pure right)
        (make (.filterRight left right leftAttribute rightAttribute tolerance unit))
    | _, _ => pure right

def buildJoinedDataframe (leftLocation rightLocation : SourceLocation)
    (sourceMaterialization : Dict) : Work Frame Frame := do
  let joinKeyPairs ← Program.ofExcept (requireMapping sourceMaterialization)
  let given := sourceMaterialization.get "join_type"
  let joinType ← Program.ofExcept
    (resolveJoinType (if given.truthy then given.str else "inner"))
  let left : Frame ← make (.readDataset leftLocation)
  let raw : Frame ← make (.readDataset rightLocation)
  let right ← applyActualityDatePreFilter env left raw sourceMaterialization
  if (joinKeyPairs.all fun pair => env.columns left |>.contains pair.1) &&
      (joinKeyPairs.all fun pair => env.columns right |>.contains pair.2) then
    make (.join left right joinKeyPairs joinType)
  else
    Program.ofExcept (executionError
      "GX join-pair materialization join keys do not exist on the source datasets"
      "GX_JOIN_PAIR_ETL_INVALID_CONTRACT")

/-- The write of `_write_joined_dataframe`, by the format of the location. -/
def writeFrame (df : Frame) (format bucket keyPrefix uri : Text) : Work Frame Unit :=
  if format = "parquet" then make (.uploadParquet df bucket keyPrefix)
  else if format = "delta" then make (.saveDelta df uri)
  else
    .ofExcept (executionError ("Unsupported join-pair materialization format '" ++ format ++
      "'") "GX_JOIN_PAIR_ETL_INVALID_CONTRACT")

/-- What was written. -/
structure Written where
  uri : Text
  format : Text
  rowCount : ℤ

def writeJoinedDataframe (df : Frame) (outputLocation : Text) : Work Frame Written := do
  let location ← Program.ofExcept (inferMaterializedSourceLocation outputLocation)
  let uri := normalizeS3Uri location.uri.strip
  Program.ofExcept (assertSupportedUri uri)
  Program.ofExcept (requireS3ConfigForLocation env.config uri)
  let target ← Program.ofExcept (parseS3aUri uri)
  make (.ensureBucketExists target.1)
  writeFrame df location.format target.1 target.2 uri
  let rowCount : ℤ ← make (.count df)
  pure ⟨uri, location.format, rowCount⟩

/-- The body of the `try` of `_process_job`. -/
def materializeJoin (ids : Identifiers) (job : Job) (leftLocation rightLocation : SourceLocation)
    (outputLocation : Text) : Work Frame Written := do
  progress ids "Join-pair materialization in progress"
    "Materializing join-pair landing-zone dataset" [entry "stage" (.text "materialize_join")] 2
  let joined ← buildJoinedDataframe env leftLocation rightLocation job.sourceMaterialization
  writeJoinedDataframe env joined outputLocation

/-- `_process_job` up to the follow-up dispatch. -/
def materialize (payload : Dict) : Work Frame (Job × Written) := do
  let ids := identifiersOf payload
  let job ← Program.ofExcept (readJob payload)
  progress ids "Join-pair materialization started" "Resolving join-pair sources"
    [entry "stage" (.text "resolve_sources")] 1
  let leftLocation ← sourceLocation ids job.leftVersionId
  let rightLocation ← sourceLocation ids job.rightVersionId
  let outputLocation := (job.sourceMaterialization.get "output_location").strippedText
  let targetLocation ← Program.ofExcept (inferMaterializedSourceLocation outputLocation)
  make (.createSparkSession
    ([leftLocation, rightLocation, targetLocation].any fun location =>
      location.format = "delta"))
  let written ← (materializeJoin env ids job leftLocation rightLocation outputLocation).ensure
    (make .stopSpark)
  pure (job, written)

/-- `_process_job` from the follow-up dispatch on. -/
def handOver (payload : Dict) (job : Job) (written : Written) : Work Frame Unit := do
  make (.lpush job.nextQueueKey (env.dumps (.dict job.nextDispatchPayload)))
  progress (identifiersOf payload)
    "Join-pair materialization completed and GX dispatch enqueued"
    "Queued GX validation after join-pair materialization"
    [entry "stage" (.text "dispatch_enqueued"), entry "output_uri" (.scalar (.str written.uri)),
      entry "output_format" (.scalar (.str written.format)),
      entry "row_count" (.int written.rowCount),
      entry "next_queue_key" (.scalar (.str job.nextQueueKey))] 3

def processJob (rawJob : Text) : Work Frame Unit := do
  let payload ← Program.ofExcept (parseDispatchPayload env.json rawJob)
  let (job, written) ← materialize env payload
  handOver env payload job written

/-- The report of `_report_failure`. -/
def failureReport (ids : Identifiers) (exc : PyError) (completedAt : Text) : RunReport where
  runId := ids.runId
  correlationId := ids.correlationId
  newStatus := .failed
  changedBy := ids.requestedBy
  reason := "Join-pair materialization failed"
  details := [entry "source" (.text "dq-engine-join-pair-etl-worker"),
    entry "failure_stage" (.text "join_pair_materialization"),
    entry "exception" (.text exc.className)]
  completedAt := some completedAt
  diagnostics := .list []
  failureCode := .text (exc.failure.elim "GX_JOIN_PAIR_MATERIALIZATION_FAILED" (·.failureCode))
  failureMessage := .scalar (.str exc.message)

def reportFailure (ids : Identifiers) (exc : PyError) : Work Frame Unit := do
  let completedAt : Text ← make .now
  make (.reportRun (failureReport ids exc completedAt))

/-- The `except` clause of the loop of `run_worker_forever`. -/
def handleFailure (rawJob : Text) (exc : PyError) : Work Frame Unit :=
  match parseDispatchPayload env.json rawJob with
  | .error _ => pure ()
  | .ok payload =>
    let ids := identifiersOf payload
    if ids.runId = [] then pure ()
    else exceptException (fun _ => pure ()) (reportFailure ids exc)

/-- The `finally` clause of the loop. -/
def acknowledge (rawJob : Text) : Work Frame Unit :=
  exceptException (fun _ => pure ()) (make (.lrem rawJob))

/-- What the loop of `run_worker_forever` does with a job. -/
def handleJob (rawJob : Text) : Work Frame Unit :=
  (exceptException (handleFailure env rawJob) (processJob env rawJob)).ensure (acknowledge rawJob)

end Processing

end JoinPair

end Dispatch

end DqMadeEasy
