import DqMadeEasy.Dispatch.Process
import DqMadeEasy.Planner.Payload
import DqMadeEasy.Text.Snake

/-!
# Grouped dispatch payloads

`build_grouped_execution_dispatch_payload` puts a plan into a dispatch message, with every key of the
plan in snake case. The worker's grouped path reads the batches of the message and, before it
evaluates a suite, checks the suite's envelope. What it reads does not depend on the frames that it
evaluates, so the reading of a whole message is a function of the message.
-/

namespace DqMadeEasy

namespace Dispatch

open Planner Artifacts Worker

section Payload

variable [PyRuntime] [PyNumerals]

/-! ### The message -/

def snakecasePayload (value : Json) : Json := value.renameKeys toSnake

/-- `_snakecase_payload` of a dictionary. -/
def snakecaseDict (d : Dict) : Dict := d.renameKeys toSnake

omit [PyNumerals] in
theorem snakecasePayload_dict (d : Dict) : snakecasePayload (.dict d) = .dict (snakecaseDict d) := rfl

/-- `HTTPException`: the status, and `error`, `message` and the engine types of its detail. -/
structure DispatchRejected where
  statusCode : ℕ
  error : String
  message : String
  engineTypes : List Text := []
  suiteRefEngineTypes : List Text := []

/-- `GxExecutionDeliverySnapshotEntity`, as its callers dump it: by alias, without `None`. -/
structure DeliverySnapshot where
  engineType : Option Text
  rest : Dict

/-- `GxDispatchSourceOverrideEntity`. -/
structure SourceOverride where
  uri : Option Text
  format : Option Text
  extra : Dict

/-- The arguments of `build_grouped_execution_dispatch_payload` besides the plan. -/
structure GroupedDispatchRequest where
  scopeSelector : Dict
  suiteRefs : List Dict
  correlationId : Text
  requestedBy : Option Text
  scheduledAt : Text
  runPlanId : Option Text
  runPlanVersionId : Option Text
  sourceOverrides : List (Text × SourceOverride)
  deliverySnapshot : Option DeliverySnapshot
  queueKey : Text

/-- The engine type of a normalized suite reference, before it is turned into small letters. -/
def refEngineType (ref : Dict) : Text :=
  ((ref.get "engine_type").orElse (ref.get "engineType")).strippedText

def suiteEngineTypes (suiteRefs : List Dict) : List Text :=
  (((suiteRefs.map refEngineType).filter (· ≠ [])).map PyRuntime.lower).eraseDups

def dispatchEngineType (request : GroupedDispatchRequest) : Except DispatchRejected Text :=
  let engineTypes := suiteEngineTypes (request.suiteRefs.map snakecaseDict)
  let declared := Planner.stripped (request.deliverySnapshot.bind DeliverySnapshot.engineType)
  if declared = [] then
    match engineTypes with
    | [] => .error { statusCode := 422, error := "missing_engine_type", message :=
        "GX grouped dispatch requires explicit engine_type on suite_refs or delivery_snapshot" }
    | [engineType] => .ok engineType
    | _ => .error { statusCode := 422, error := "mixed_engine_types"
                    message := "GX grouped dispatch requires a single engine_type"
                    engineTypes := Sorted.sortOn id engineTypes }
  else if engineTypes.any (· ≠ PyRuntime.lower declared) then
    .error { statusCode := 422, error := "engine_type_mismatch"
             message := "GX grouped dispatch requires matching engine_type across suite_refs and " ++
               "delivery_snapshot"
             engineTypes := [PyRuntime.lower declared]
             suiteRefEngineTypes := Sorted.sortOn id engineTypes }
  else .ok declared

/-- An entry of a dump that leaves `None` out. -/
def optEntry (key : String) (value : Option Text) : Dict :=
  value.elim [] fun t => [entry key (.scalar (.str t))]

def SourceOverride.toDict (override : SourceOverride) : Dict :=
  optEntry "uri" override.uri ++ optEntry "format" override.format ++
    override.extra.filter fun e => !e.2.isNone

def normalizedOverrides (overrides : List (Text × SourceOverride)) : Dict :=
  Dict.ofEntries ((overrides.filter fun e => e.1.strip ≠ []).map fun e =>
    (e.1.strip, .dict e.2.toDict))

def DeliverySnapshot.toDict (snapshot : DeliverySnapshot) : Dict :=
  optEntry "engine_type" snapshot.engineType ++ snapshot.rest

def runPlanEntry (key : String) (value : Option Text) : Dict :=
  if Planner.stripped value = [] then []
  else [entry key (.scalar (.str (Planner.stripped value)))]

/-- `build_grouped_execution_dispatch_payload`, with the random part of the run identifier and the
time of submission. The counts of a plan are integers and none of its values is `None`, so the
entity of the plan dumps it as it is. -/
def buildGroupedExecutionDispatchPayload (request : GroupedDispatchRequest) (plan : Plan)
    (hex submittedAt : Text) : Except DispatchRejected Dict := do
  let engineType ← dispatchEngineType request
  let runId : Json := .scalar (.str ("run-" ++ hex))
  return [entry "run_id" runId, entry "queue_message_id" runId,
      entry "correlation_id" (.scalar (.str request.correlationId))] ++
    optEntry "requested_by" request.requestedBy ++
    [entry "engine_type" (.scalar (.str engineType)), entry "engine_target" (.text "pyspark"),
      entry "execution_shape" (.text "grouped_scope"), entry "dispatch_mode" (.text "queued"),
      entry "executor_target" (.text "dq-engine"),
      entry "queue_key" (.scalar (.str request.queueKey)),
      entry "handoff_status" (.text "accepted"), entry "handoff_ready" (.scalar (.bool true)),
      entry "submitted_at" (.scalar (.str submittedAt)),
      entry "scheduled_at" (.scalar (.str request.scheduledAt)),
      entry "selection_mode" (.text "grouped_scope"), entry "execution_scope_override" (.list []),
      entry "grouped_execution_plan" (snakecasePayload (.dict plan.toDict)),
      entry "scope_selector" (snakecasePayload (.dict request.scopeSelector)),
      entry "suite_refs" (.list (request.suiteRefs.map fun ref => snakecasePayload (.dict ref))),
      entry "headers" (.dict []),
      entry "source_overrides_by_data_object_version_id"
        (.dict (normalizedOverrides request.sourceOverrides))] ++
    request.deliverySnapshot.elim [] (fun snapshot =>
      [entry "delivery_snapshot" (.dict snapshot.toDict)]) ++
    runPlanEntry "run_plan_id" request.runPlanId ++
    runPlanEntry "run_plan_version_id" request.runPlanVersionId

/-! ### What the worker reads -/

/-- The checks of the loop body over the suites: the envelope, its expectations and its primary key
fields. -/
def readSuite (targetId : Text) (suitePayload : Json) :
    Except PyError (Dict × List Dict × List Text) := do
  let suite ← expectDict suitePayload ("Grouped GX dispatch batch '" ++
    targetId ++ "' contains an invalid suite envelope")
  let (expectations, suiteTargets, primaryKeyFields) ← assertRunnableSuite suite
  if targetId ∈ suiteTargets then .ok (suite, expectations, primaryKeyFields)
  else executionError ("Grouped GX dispatch suite is not attached to target '" ++
    targetId ++ "'") "GX_DISPATCH_INVALID_PAYLOAD"

/-- The checks of the loop body over the batches: the target, and the expectations of its suites in
the order in which they are evaluated. -/
def readBatch (batch : Json) : Except PyError (Text × List (List Dict)) := do
  let batch ← expectDict batch "Grouped GX dispatch batch is invalid"
  let targetId ← batchTarget batch
  let suites ← batchSuites batch targetId
  let readings ← suites.mapM (readSuite targetId)
  return (targetId, readings.map fun reading => reading.2.1)

/-- The checks of `_process_grouped_dispatch_message`. -/
def readGrouped (payload : Dict) : Except PyError (List (Text × List (List Dict))) := do
  let batches ← groupedBatches payload
  let _ ← groupedTargets batches
  batches.mapM readBatch

end Payload

end Dispatch

end DqMadeEasy
