import Mathlib.Data.List.Lex
import Mathlib.Data.Char
import DqMadeEasy.Logic.Sorted
import DqMadeEasy.Worker.Loop

/-!
# Dispatch messages and suite envelopes

What the worker reads from a dispatch message and from a suite envelope: identifiers, the engine,
the expectations and targets of a runnable suite, and the locations of its sources. Keys are looked
up by their literal names in the dictionaries as they were parsed.
-/

namespace DqMadeEasy

namespace Dispatch

open Worker

/-- `GxWorkerExecutionError(message, failure_code=…)` or its other name. -/
def executionError {α : Type} (message : Text) (failureCode : String) : Except PyError α :=
  .error (.execution (String.ofList message) failureCode none none)

/-- An item, or `str`, or a key that a `for` loop visits. -/
def iterate : Json → Except PyError (List Json)
  | .list items => .ok items
  | .dict entries => .ok (entries.map fun e => .scalar (.str e.1))
  | .scalar (.str t) => .ok (t.map fun c => .scalar (.str [c]))
  | .scalar _ => .error (.builtin "TypeError" "object is not iterable")

section Coercion

variable [PyRuntime] [PyNumerals]

/-- `coerce_str`: the first value under the keys whose text is not blank. -/
def coerceStr (payload : Dict) (keys : List String) : Text :=
  (keys.findSome? fun key =>
    let value := payload.get key
    if value.isNone then none
    else if value.str.strip = [] then none
    else some value.str.strip).getD []

/-- `coerce_int`: the first positive integer under the keys. -/
def coerceInt (payload : Dict) (keys : List String) : ℤ :=
  (keys.findSome? fun key =>
    let value := payload.get key
    if value.isNone then none
    else match value.toInt? with
      | some parsed => if 1 ≤ parsed then some parsed else none
      | none => none).getD 0

/-- `parse_dispatch_payload`, for a JSON reader. -/
def parseDispatchPayload (json : Text → Except PyError Json) (raw : Text) : Except PyError Dict :=
  match json raw with
  | .error exc =>
    .error (.execution "Execution dispatch message is not valid JSON" "DQ_DISPATCH_INVALID_JSON"
      none (some exc))
  | .ok (.dict payload) => .ok payload
  | .ok _ =>
    executionError "Execution dispatch message must be a JSON object"
      "DQ_DISPATCH_INVALID_JSON"

def engineAliases : List (Text × Text) :=
  [("great_expectations", "gx"), ("great-expectations", "gx"),
    ("pyspark_native", "pyspark"), ("spark", "pyspark")]

def normalizeExecutionEngine (engineType : Text) : Text :=
  let normalized := PyRuntime.lower engineType.strip
  (Assoc.find? engineAliases normalized).getD normalized

def supportedExecutionEngines : List Text :=
  ["gx", "soda", "sql", "pyspark", "spark", "spark_expectations", "trino"].map String.toList

def strippedTexts (values : List Json) : List Text :=
  (values.map fun value => value.str.strip).filter (· ≠ [])

/-! ### Suite envelopes -/

def extractPrimaryKeyFields (envelope : Dict) : List Text :=
  match (envelope.get "executionHints").asDict? <|> (envelope.get "execution_hints").asDict? with
  | none => []
  | some hints =>
    let rawFields := hints.get "primaryKeyFields"
    let rawFields := if rawFields.isNone then hints.get "primary_key_fields" else rawFields
    match rawFields with
    | .list values => strippedTexts values
    | _ => []

def expectationMessage (index : ℕ) (what : String) : Text :=
  "GX suite expectation at index " ++ (toString index).toList ++ ' ' :: what.toList

/-- The loop of `_assert_runnable_suite` over the expectations, from an index on. -/
def runnableExpectations : ℕ → List Json → Except PyError (List Dict)
  | _, [] => .ok []
  | index, .dict expectation :: rest =>
    if (Dict.get expectation "expectation_type").strippedText = [] then
      executionError (expectationMessage index "missing expectation_type") "GX_SUITE_NOT_RUNNABLE"
    else if (Dict.get expectation "kwargs").dictOrEmpty = [] then
      executionError (expectationMessage index "missing kwargs") "GX_SUITE_NOT_RUNNABLE"
    else do
      let expectations ← runnableExpectations (index + 1) rest
      return expectation :: expectations
  | index, _ :: _ => executionError (expectationMessage index "is invalid") "GX_SUITE_NOT_RUNNABLE"

/-- The targets of the resolved scope of an envelope. -/
def resolvedTargets (envelope : Dict) : Except PyError (List Text) :=
  match (envelope.get "resolved_execution_scope").asDict? with
  | none => .ok []
  | some scope => do
    let rawIds ← iterate ((scope.get "data_object_version_ids").orElse (.list []))
    return strippedTexts rawIds

/-- `_assert_runnable_suite`: the expectations, the targets and the primary key fields. -/
def assertRunnableSuite (envelope : Dict) :
    Except PyError (List Dict × List Text × List Text) :=
  match (envelope.get "gx_suite").asDict? with
  | none => executionError "GX suite envelope is missing gx_suite" "GX_SUITE_NOT_RUNNABLE"
  | some gxSuite =>
    match (gxSuite.get "expectations").asList?.getD [] with
    | [] => executionError "GX suite has no executable expectations" "GX_SUITE_NOT_RUNNABLE"
    | rawExpectation :: rest => do
      let expectations ← runnableExpectations 0 (rawExpectation :: rest)
      let targetIds ← resolvedTargets envelope
      if targetIds = [] then
        executionError "GX suite has no resolved execution targets" "GX_SUITE_NOT_RUNNABLE"
      else .ok (expectations, targetIds, extractPrimaryKeyFields envelope)

/-! ### Source locations -/

/-- `SourceLocation`. -/
structure SourceLocation where
  uri : Text
  format : Text
  options : Dict

mutual

/-- A value with the keys of its dictionaries in order, as `json.dumps(…, sort_keys=True)` has. -/
def sortKeys : Json → Json
  | .scalar value => .scalar value
  | .list items => .list (sortKeysItems items)
  | .dict entries => .dict (Sorted.sortOn Prod.fst (sortKeysEntries entries))

def sortKeysItems : List Json → List Json
  | [] => []
  | item :: items => sortKeys item :: sortKeysItems items

def sortKeysEntries : List (Text × Json) → List (Text × Json)
  | [] => []
  | (key, value) :: entries => (key, sortKeys value) :: sortKeysEntries entries

end

def sameOptions (options options' : Dict) : Bool :=
  (sortKeys (.dict options)).repr == (sortKeys (.dict options')).repr

def extractSourceOverrides (payload : Dict) : List (Text × Dict) :=
  let rawOverrides := (payload.get "source_overrides_by_data_object_version_id").orElse
    (payload.get "source_overrides")
  rawOverrides.dictOrEmpty.foldl (fun overrides e =>
    match e.1.strip, e.2 with
    | [], _ => overrides
    | targetId, .dict value => Assoc.update targetId (fun _ => value) overrides
    | _, _ => overrides) []

/-- The location of an override; `about` names the dispatch in the messages. -/
def overrideLocation (about : String) (override : Dict) : Except PyError SourceLocation :=
  let uri := (override.get "uri").strippedText
  let fmt := PyRuntime.lower (override.get "format").strippedText
  let options := override.get "options"
  if uri = [] ∨ fmt = [] then
    executionError (about.toList ++ " source override is missing required fields (uri/format)".toList)
      "GX_WORKER_INVALID_SOURCE_OVERRIDE"
  else if fmt ∉ ["parquet".toList, "delta".toList] then
    executionError (about.toList ++ " source override has unsupported format '".toList ++ fmt ++
      "'".toList) "GX_WORKER_UNSUPPORTED_STORAGE_FORMAT"
  else if !options.isNone && options.asDict?.isNone then
    executionError (about.toList ++ " source override options must be an object".toList)
      "GX_WORKER_INVALID_SOURCE_OVERRIDE"
  else .ok ⟨uri, fmt, options.dictOrEmpty⟩

def coerceSourceLocation (versionPayload : Dict) (dataObjectVersionId : Text) :
    Except PyError SourceLocation :=
  let storageUri := (versionPayload.get "storage_uri").strippedText
  let storageFormat := PyRuntime.lower (versionPayload.get "storage_format").strippedText
  if storageUri = [] then
    executionError ("Missing storage_uri for data_object_version_id '".toList ++
      dataObjectVersionId ++ "'".toList) "GX_WORKER_MISSING_SOURCE_LOCATION"
  else if storageFormat = [] then
    executionError ("Missing storage_format for data_object_version_id '".toList ++
      dataObjectVersionId ++ "'".toList) "GX_WORKER_MISSING_SOURCE_LOCATION"
  else if storageFormat ∉ ["parquet".toList, "delta".toList] then
    executionError ("Unsupported storage_format '".toList ++ storageFormat ++
      "' for data_object_version_id '".toList ++ dataObjectVersionId ++ "'".toList)
      "GX_WORKER_UNSUPPORTED_STORAGE_FORMAT"
  else .ok ⟨storageUri, storageFormat, (versionPayload.get "storage_options_json").dictOrEmpty⟩

def normalizeS3Uri (uri : Text) : Text :=
  if "s3://".toList.isPrefixOf uri.strip then "s3a://" ++ uri.strip.drop 5 else uri.strip

/-- `_S3_URI_RE`. -/
def isS3Uri (uri : Text) : Bool := "s3://".toList.isPrefixOf uri || "s3a://".toList.isPrefixOf uri

def assertSupportedUri (uri : Text) : Except PyError Unit :=
  if isS3Uri uri then .ok ()
  else executionError ("Unsupported storage URI scheme for '" ++ uri ++
    "'. Only s3:// and s3a:// are supported initially.") "GX_WORKER_UNSUPPORTED_STORAGE_URI"

/-- The segments of a location that name a format, in any case. -/
def materializedFormats (uri : Text) : List Text :=
  (Text.splitOn '/' uri).filterMap fun part =>
    let folded := part.map Char.toLower
    if folded = "format=parquet".toList then some "parquet".toList
    else if folded = "format=delta".toList then some "delta".toList
    else none

def inferMaterializedSourceLocation (outputLocation : Text) : Except PyError SourceLocation :=
  let normalizedUri := normalizeS3Uri outputLocation
  if normalizedUri = [] then
    executionError
      "GX join_pair execution requires source_materialization.output_location".toList
      "GX_WORKER_MISSING_SOURCE_LOCATION"
  else match materializedFormats normalizedUri with
    | [] =>
      executionError ("GX join_pair source_materialization.output_location must include ".toList ++
        "'/format=parquet' or '/format=delta'".toList) "GX_WORKER_INVALID_SOURCE_LOCATION"
    | fmt :: _ => .ok ⟨normalizedUri, fmt, []⟩

/-- `source_materialization` of an envelope. -/
def sourceMaterialization (envelope : Dict) : Option Dict :=
  (envelope.get "execution_contract").asDict?.bind fun contract =>
    (contract.get "source_materialization").asDict?

end Coercion

end Dispatch

end DqMadeEasy
