import Mathlib.Data.Char
import Mathlib.Data.List.Lex
import Mathlib.Data.Prod.Lex
import Mathlib.Data.Rat.Floor
import DqMadeEasy.Runs.Run

/-!
# Result events

The event that the API builds of a run and of the report that ended it, and the in-memory store of
these events, which knows an event by its run and its status.
-/

namespace DqMadeEasy

namespace Runs

open Artifacts Worker

/-! ### The entities -/

/-- `RuleTaxonomyEntity`. -/
structure RuleTaxonomy where
  type : Option Text := none
  severity : Option Text := none
  domain : Option Text := none
  owner : Option Text := none
  dataSteward : Option Text := none
  domainOwner : Option Text := none
  technicalOwner : Option Text := none
  slaScope : Option Text := none
  executionTarget : Option Text := none
  deriving DecidableEq

/-- What an event takes of a `RuleEntity`. -/
structure RuleEntity where
  id : Text
  name : Text
  workspace : Option Text
  taxonomy : RuleTaxonomy

/-- `DqResultDatasetEntity`. -/
structure DqResultDataset where
  id : Text
  name : Option Text
  workspaceId : Option Text
  dataProductId : Option Text
  dataObjectId : Option Text
  dataObjectVersionId : Option Text
  deriving DecidableEq

/-- `DqResultDomainEntity`. -/
structure DqResultDomain where
  id : Text
  name : Option Text
  deriving DecidableEq

/-- `DqResultRuleEntity`. -/
structure DqResultRule where
  id : Text
  name : Option Text
  workspaceId : Option Text
  versionId : Option Text
  versionNumber : Option ℤ
  taxonomy : RuleTaxonomy
  deriving DecidableEq

/-- `DqResultRunOutcomeEntity`. -/
structure DqResultRunOutcome where
  status : Text
  result : Option Text
  passed : Option Bool
  totalCount : Option ℕ
  validCount : Option ℕ
  invalidCount : Option ℕ
  warningCount : Option ℕ
  errorCount : Option ℕ
  score : Option PyFloat
  scoreLabel : Option Text
  observedAt : Option Text
  durationMs : Option ℤ
  message : Option Text
  deriving DecidableEq

/-- `DqResultScoreDimensionEntity`. -/
structure DqResultScoreDimension where
  name : Text
  value : Option PyFloat
  maximum : Option PyFloat
  weight : Option PyFloat := none
  normalizedValue : Option PyFloat
  threshold : Option PyFloat
  passed : Option Bool
  reason : Option Text
  deriving DecidableEq

/-- `DqResultCorrelationEntity`. -/
structure DqResultCorrelation where
  correlationId : Text
  runId : Option Text
  requestId : Option Text
  queueMessageId : Option Text
  traceId : Option Text
  parentCorrelationId : Option Text
  sourceSystem : Option Text
  deriving DecidableEq

/-- `DqResultEventEntity`. -/
structure DqResultEvent where
  eventType : Text := "dq_result_event"
  eventVersion : Text := "1"
  emittedAt : Text
  severity : Text
  dataset : DqResultDataset
  domain : Option DqResultDomain
  rule : DqResultRule
  runOutcome : DqResultRunOutcome
  scoreDimensions : List DqResultScoreDimension
  correlation : DqResultCorrelation
  deriving DecidableEq

/-- `GxExecutionRunReportRequestView`. -/
structure ReportBody where
  newStatus : RunStatus
  changedBy : Option Text
  reason : Option Text
  details : Option Dict
  executionProgress : Option Dict
  startedAt : Option Text
  completedAt : Option Text
  resultSummary : Option Dict
  metrics : Option Dict
  performanceSummary : Option Dict
  diagnostics : Option (List Dict)
  failureCode : Option Text
  failureMessage : Option Text

/-! ### Validated dictionaries -/

/-- A `ValidationError`, which is a `ValueError`. -/
def validationError {α : Type} : Except PyError α :=
  .error (.mk .exception "pydantic_core" "ValidationError" [] none none)

/-- `isinstance(exc, ValueError)`. -/
def isValueError (exc : PyError) : Bool :=
  exc.className == "ValueError" || exc.className == "ValidationError"

/-- A field of an entity with an alias, its default, and what it accepts. -/
structure FieldSpec where
  key : String
  name : String
  default : Json := .null
  check : Json → Except PyError Json := .ok

def FieldSpec.keyIn? (field : FieldSpec) (payload : Dict) : Option Text :=
  if payload.contains field.key.toList then some field.key.toList
  else if payload.contains field.name.toList then some field.name.toList
  else none

def FieldSpec.read (field : FieldSpec) (payload : Dict) : Except PyError Json :=
  match field.keyIn? payload with
  | some key => field.check ((payload.find? key).getD .null)
  | none => .ok field.default

/-- `model_validate` of an entity that allows further keys, and its dump by aliases without the
values that are `None`. -/
def validateModel (fields : List FieldSpec) (payload : Dict) : Except PyError Dict := do
  let known ← fields.mapM fun field => (field.read payload).map fun value =>
    entry field.key value
  let extra := payload.filter fun item => item.1 ∉ fields.filterMap (·.keyIn? payload)
  return (known ++ extra).filter fun item => !item.2.isNone

/-- `str | None`. -/
def optionalText : Json → Except PyError Json
  | .scalar .none => .ok .null
  | .scalar (.str t) => .ok (.scalar (.str t))
  | _ => validationError

/-- `list[Any]`. -/
def anyList : Json → Except PyError Json
  | .list items => .ok (.list items)
  | _ => validationError

section Coercion

variable [PyRuntime]

/-- The texts that a truth value may be given by. -/
def boolOfText (t : Text) : Option Bool :=
  if PyRuntime.lower t ∈ ["1", "on", "t", "true", "y", "yes"].map String.toList then some true
  else if PyRuntime.lower t ∈ ["0", "off", "f", "false", "n", "no"].map String.toList then
    some false
  else none

/-- The number is read as a truth value. -/
def boolOfNumber (q : ℚ) : Option Bool :=
  if q = 1 then some true else if q = 0 then some false else none

/-- `bool | None`. -/
def optionalBool (value : Json) : Except PyError Json :=
  let read (b? : Option Bool) : Except PyError Json :=
    b?.elim validationError fun b => .ok (.scalar (.bool b))
  match value with
  | .scalar .none => .ok .null
  | .scalar (.bool b) => .ok (.scalar (.bool b))
  | .scalar (.int n) => read (boolOfNumber n)
  | .scalar (.float (.finite q)) => read (boolOfNumber q)
  | .scalar (.str t) => read (boolOfText t)
  | _ => validationError

/-- `GxExecutionResultItemEntity`. -/
def resultItemFields : List FieldSpec :=
  [{ key := "data_object_version_id", name := "dataObjectVersionId", check := optionalText },
    { key := "ok", name := "ok", check := optionalBool },
    { key := "records_failed", name := "recordsFailed" },
    { key := "failed_count", name := "failedCount" },
    { key := "violation_count", name := "violationCount" }]

end Coercion

/-- `GxExecutionResultSummaryEntity`. -/
def resultSummaryFields : List FieldSpec :=
  [{ key := "results", name := "results", default := .list [], check := anyList },
    { key := "records_failed", name := "recordsFailed" },
    { key := "failed_count", name := "failedCount" },
    { key := "violation_count", name := "violationCount" }]

/-- `GxExecutionDiagnosticEntity`. -/
def diagnosticFields : List FieldSpec :=
  [{ key := "data_object_version_id", name := "dataObjectVersionId", check := optionalText },
    { key := "data_primary_key", name := "dataPrimaryKey", check := optionalText },
    { key := "row_identifier", name := "rowIdentifier", check := optionalText },
    { key := "reason", name := "reason", check := optionalText },
    { key := "expectation_type", name := "expectationType", check := optionalText },
    { key := "message", name := "message", check := optionalText },
    { key := "detected_at", name := "detectedAt", check := optionalText }]

/-! ### Texts of payloads -/

def nonBlank (t : Text) : Option Text := if Text.strip t = [] then none else some (Text.strip t)

@[simp] theorem nonBlank_nil : nonBlank [] = none := rfl

def firstText (values : List (Option Text)) : Option Text :=
  values.findSome? fun value => value.bind nonBlank

def normalizedText (value : Option Text) : Option Text := value.bind nonBlank

section Lookups

variable [PyRuntime] [PyNumerals]

/-- `_lookup_text`, with `none` for a payload that is no mapping. -/
def lookupText (payload : Option Dict) (keys : List String) : Option Text :=
  keys.findSome? fun key =>
    let value := (payload.getD []).get key
    if value.isNone then none else nonBlank value.str

omit [PyRuntime] [PyNumerals] in
def lookupMapping (payload : Dict) (keys : List String) : Dict :=
  (keys.findSome? fun key => (payload.get key).asDict?).getD []

/-- `_read_int` of an optional text. -/
def readInt (value : Option Text) : Option ℤ := value.bind PyNumerals.parseInt

end Lookups

/-! ### Dumps by aliases -/

/-- The fields of a traceability by their aliases. -/
def Traceability.byAlias (traceability : Traceability) : Dict :=
  [entry "rule_id" (optText traceability.ruleId),
    entry "rule_version_id" (optText traceability.ruleVersionId),
    entry "gx_suite_id" (optText traceability.gxSuiteId),
    entry "gx_suite_version" (optInt traceability.gxSuiteVersion),
    entry "data_object_version_id" (optText traceability.dataObjectVersionId),
    entry "source_rule_expression" (optText traceability.sourceRuleExpression),
    entry "compiled_expression" (optText traceability.compiledExpression),
    entry "artifact_key" (optText traceability.artifactKey)] ++ traceability.extra

/-- The fields of a source by their aliases. -/
def SourceTarget.byAlias (target : SourceTarget) : Dict :=
  [entry "data_object_id" (optText target.dataObjectId),
    entry "data_object_version_id" (optText target.dataObjectVersionId),
    entry "dataset_id" (optText target.datasetId),
    entry "data_product_id" (optText target.dataProductId)] ++ target.extra

/-- The sources of a materialization by their aliases. -/
def SourceMaterialization.byAlias (materialization : SourceMaterialization) : Dict :=
  [entry "left_source" (optDict SourceTarget.byAlias materialization.leftSource),
    entry "right_source" (optDict SourceTarget.byAlias materialization.rightSource)] ++
    materialization.extra

def GxExecutionContract.byAlias (contract : GxExecutionContract) : Dict :=
  entry "resolved_data_object_version_id" (optText contract.resolvedDataObjectVersionId) ::
    contract.extra

/-! ### Building the event -/

section Build

variable [PyRuntime] [PyNumerals]

def severityForStatus (status : Text) : Text :=
  if status = "succeeded" then "info"
  else if status = "cancelled" then "warning"
  else "critical"

/-- `_build_dataset_entity`. The sources are entities and no mappings, so no text is found in
them. -/
def buildDatasetEntity (run : RunEntity Text) (suitePayload : Dict) (leftSource rightSource : Option Dict)
    (rule : Option RuleEntity) : DqResultDataset :=
  let assignmentScope := lookupMapping suitePayload ["assignment_scope", "assignmentScope"]
  let resolvedScope := lookupMapping suitePayload
    ["resolved_execution_scope", "resolvedExecutionScope"]
  let materialization := (run.executionContract.bind GxExecutionContract.sourceMaterialization).elim
    [] SourceMaterialization.byAlias
  let sourceCandidate :=
    if assignmentScope ≠ [] then assignmentScope
    else if resolvedScope ≠ [] then resolvedScope
    else lookupMapping materialization ["left_source", "leftSource"]
  let traceability := (run.executionContract.bind GxExecutionContract.traceability).map
    Traceability.byAlias
  let contract := run.executionContract.map GxExecutionContract.byAlias
  let find (keys : List String) := ((lookupText sourceCandidate keys).or
    (lookupText leftSource keys)).or (lookupText rightSource keys)
  { id := (find ["dataset_id", "datasetId"]).getD
      ((firstText [run.suiteId, some run.id]).getD "unknown")
    name := lookupText sourceCandidate ["dataset_name", "datasetName"]
    workspaceId := (lookupText sourceCandidate ["workspace_id", "workspaceId"]).or
      (normalizedText (rule.bind RuleEntity.workspace))
    dataProductId := find ["data_product_id", "dataProductId"]
    dataObjectId := find ["data_object_id", "dataObjectId"]
    dataObjectVersionId :=
      ((find ["data_object_version_id", "dataObjectVersionId"]).or
        (lookupText traceability ["data_object_version_id", "dataObjectVersionId"])).or
        (lookupText contract ["resolved_data_object_version_id", "resolvedDataObjectVersionId"]) }

def buildDomainEntity (suitePayload details : Dict) : Option DqResultDomain :=
  let gxSuite := lookupMapping suitePayload ["gx_suite", "gxSuite"]
  let domainId := (lookupText details ["domain_id", "domainId", "domain"]).or
    (lookupText gxSuite ["primary_domain", "primaryDomain", "domain_id", "domainId", "domain"])
  domainId.map fun id =>
    { id
      name := (lookupText gxSuite ["domain_name", "domainName", "primary_domain_name",
        "primaryDomainName"]).or (some id) }

/-- The id of the rule of `_build_rule_entity`. -/
def eventRuleId (run : RunEntity Text) (suitePayload : Dict) (rule : Option RuleEntity) : Text :=
  let gxSuite := lookupMapping suitePayload ["gx_suite", "gxSuite"]
  let traceability := (run.executionContract.bind GxExecutionContract.traceability).map
    Traceability.byAlias
  (firstText [run.ruleId, rule.map RuleEntity.id, lookupText gxSuite ["rule_id", "ruleId"],
    lookupText traceability ["rule_id", "ruleId"]]).getD run.id

def buildRuleEntity (run : RunEntity Text) (suitePayload : Dict) (rule : Option RuleEntity) :
    DqResultRule :=
  let gxSuite := lookupMapping suitePayload ["gx_suite", "gxSuite"]
  let traceability := (run.executionContract.bind GxExecutionContract.traceability).map
    Traceability.byAlias
  { id := eventRuleId run suitePayload rule
    name := firstText [rule.map RuleEntity.name,
      lookupText gxSuite ["rule_name", "ruleName", "name", "expectation_suite_name",
        "expectationSuiteName"],
      lookupText traceability ["source_rule_expression", "sourceRuleExpression"]]
    workspaceId := normalizedText (rule.bind RuleEntity.workspace)
    versionId := firstText [run.ruleVersionId,
      lookupText traceability ["rule_version_id", "ruleVersionId"]]
    versionNumber :=
      match run.suiteVersion with
      | none | some 0 => readInt (lookupText suitePayload ["suite_version", "suiteVersion"])
      | some version => some version
    taxonomy := (rule.map RuleEntity.taxonomy).getD {} }

def buildCorrelationEntity (run : RunEntity Text) (details : Dict) : DqResultCorrelation :=
  let handoffPayload := run.handoffPayload.getD []
  let headers := (handoffPayload.get "headers").dictOrEmpty
  { correlationId := run.correlationId
    runId := some run.id
    requestId := firstText [lookupText details ["request_id", "requestId"], some run.id]
    queueMessageId := firstText [lookupText details ["queue_message_id", "queueMessageId"],
      lookupText handoffPayload ["queue_message_id", "queueMessageId"]]
    traceId := firstText [lookupText details ["trace_id", "traceId"],
      lookupText headers ["trace_id", "traceId", "traceparent"]]
    parentCorrelationId := lookupText details ["parent_correlation_id", "parentCorrelationId"]
    sourceSystem := firstText [lookupText details ["source_system", "sourceSystem"],
      some "gx_report_api"] }

/-! ### Counts and scores -/

/-- The nearest integer, the even one of two. -/
def roundHalfEven (q : ℚ) : ℤ :=
  if q - ⌊q⌋ < 1 / 2 then ⌊q⌋
  else if 1 / 2 < q - ⌊q⌋ then ⌊q⌋ + 1
  else if ⌊q⌋ % 2 = 0 then ⌊q⌋ else ⌊q⌋ + 1

omit [PyNumerals] in
def onFinite (value : PyFloat) (f : ℚ → ℚ) : PyFloat :=
  match value with
  | .finite q => PyRuntime.roundFloat (f q)
  | value => value

omit [PyNumerals] in
/-- `round(valid / total * 100, 2)`. -/
def scoreOfCounts (valid total : ℕ) : PyFloat :=
  onFinite (onFinite (PyRuntime.roundFloat ((valid : ℚ) / total)) (· * 100))
    fun q => (roundHalfEven (q * 100) : ℚ) / 100

omit [PyNumerals] in
/-- `score`: of the counts, and without items of the status. -/
def eventScore (status : Text) (items : List (Option Bool)) : Option PyFloat :=
  if items ≠ [] then some (scoreOfCounts (items.count (some true)) items.length)
  else if status = "succeeded" then some (.finite 100)
  else if status = "failed" ∨ status = "cancelled" then some (.finite 0)
  else none

omit [PyNumerals] in
/-- The `ok` of the items of `build_gx_execution_result_item_entities`. -/
def resultItems (resultSummary : Dict) : Except PyError (List (Option Bool)) :=
  let candidates := ((resultSummary.get "results").asList?.getD []).filterMap Json.asDict?
  candidates.mapM fun candidate => (validateModel resultItemFields candidate).map fun item =>
    match item.get "ok" with
    | .scalar (.bool b) => some b
    | _ => none

variable [PyDatetime]

omit [PyRuntime] [PyNumerals] in
def parseDatetime (value : Option Text) : Option Datetime :=
  value.bind fun t => (nonBlank t).bind Datetime.ofText

omit [PyNumerals] in
def durationMs (startedAt completedAt : Option Text) : Except PyError (Option ℤ) :=
  match parseDatetime startedAt, parseDatetime completedAt with
  | some start, some finish =>
    if start.aware = finish.aware then .ok (some (max (Datetime.elapsedMilliseconds start finish) 0))
    else .error
      (.builtin "TypeError" "can't subtract offset-naive and offset-aware datetimes")
  | _, _ => .ok none

omit [PyRuntime] [PyNumerals] in
/-- `emitted_at` at a reading of the clock. -/
def eventEmittedAt (now : ℕ) (run : RunEntity Text) (body : ReportBody) : Text :=
  (firstText [body.completedAt, run.completedAt, some (Datetime.nowIso run.updatedAt),
    run.startedAt]).getD (Datetime.nowIso now)

omit [PyRuntime] [PyNumerals] [PyDatetime] in
/-- `status` of the event. -/
def eventStatus (run : RunEntity Text) (body : ReportBody) : Text :=
  (firstText [some body.newStatus.text, some run.status.text]).getD "unknown"

omit [PyRuntime] [PyNumerals] [PyDatetime] in
theorem eventStatus_eq (run : RunEntity Text) (body : ReportBody) :
    eventStatus run body = body.newStatus.text := by
  rw [eventStatus]
  cases body.newStatus <;> rfl

/-- `build_dq_result_event_from_gx_execution_run`. -/
def buildDqResultEvent (now : ℕ) (run : RunEntity Text) (suite : Option GxArtifactEnvelope)
    (rule : Option RuleEntity) (body : ReportBody) : Except PyError DqResultEvent := do
  let suitePayload := suite.elim [] GxArtifactEnvelope.modelDump
  let details := body.details.getD []
  let emittedAt := eventEmittedAt now run body
  let status := eventStatus run body
  let message := firstText [body.failureMessage, body.reason, run.failureMessage, run.comments]
  let items ← resultItems run.resultSummary
  let counted (n : ℕ) := if items = [] then none else some n
  let score := eventScore status items
  let duration ← durationMs run.startedAt (some emittedAt)
  return {
    emittedAt
    severity := severityForStatus status
    dataset := buildDatasetEntity run suitePayload none none rule
    domain := buildDomainEntity suitePayload details
    rule := buildRuleEntity run suitePayload rule
    runOutcome := {
      status
      result := some status
      passed := some (status == "succeeded")
      totalCount := counted items.length
      validCount := counted (items.count (some true))
      invalidCount := counted (items.count (some false))
      warningCount := none
      errorCount := counted (items.count (some false))
      score
      scoreLabel := some "quality_score"
      observedAt := some emittedAt
      durationMs := duration
      message }
    scoreDimensions := [{
      name := "quality_score"
      value := score
      maximum := some (.finite 100)
      normalizedValue := score.map fun value => onFinite value (· / 100)
      threshold := none
      passed := some (status == "succeeded")
      reason := message }]
    correlation := buildCorrelationEntity run details }

end Build

end Runs

end DqMadeEasy
