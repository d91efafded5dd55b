import DqMadeEasy.Runs.ResultStore
import DqMadeEasy.Runs.Schedule

/-!
# Adherence to service levels

A definition selects result events by its scope and its lookback window and compares a metric of them
with its threshold. A definition that misses its target is reported by a breach event, which is a
result event like those of runs.
-/

namespace DqMadeEasy

namespace ServiceLevels

open Runs Worker

/-! ### Definitions -/

/-- `SlaSloDefinitionEntity`. -/
structure Definition where
  id : Text
  workspaceId : Text
  name : Text
  scopeKind : Text
  scopeId : Text
  metricKind : Text
  thresholdValue : PyFloat
  thresholdOperator : Text
  lookbackAmount : ℤ
  lookbackUnit : Text
  lifecycleStatus : Text
  approvalStatus : Text
  createdAt : Option Text
  updatedAt : Option Text
  deriving DecidableEq

/-- `SlaSloAdherenceEntity`. -/
structure Adherence where
  metricValue : Option PyFloat
  thresholdValue : PyFloat
  thresholdOperator : Text
  observedEventCount : ℕ
  compliantEventCount : ℕ
  nonCompliantEventCount : ℕ
  complianceRatePct : Option PyFloat
  currentValue : Option PyFloat
  currentObservedAt : Option Text
  latestObservedAt : Option Text
  meetsTarget : Option Bool
  summary : Text

section Selection

variable [PyRuntime]

/-- `str(value or "").strip().lower()`. -/
def lowered (value : Text) : Text := PyRuntime.lower (Text.strip value)

/-- `str(value or fallback).strip().lower()`. -/
def loweredOr (value : Text) (fallback : String) : Text :=
  lowered (if value = [] then fallback.toList else value)

/-- The definitions that `list_sla_slo_definitions` returns, the latest first. -/
def listSlaSloDefinitions (definitions : List Definition) (workspaceId status : Option Text) :
    List Definition :=
  let rows := definitions.filter fun definition =>
    workspaceId.all (fun target => lowered definition.workspaceId == lowered target) &&
      status.all fun target => lowered definition.lifecycleStatus == lowered target ||
        lowered definition.approvalStatus == lowered target
  (Sorted.sortOn (fun definition =>
    toLex (textOr definition.updatedAt definition.createdAt, definition.id)) rows.reverse).reverse

/-- The microseconds of a unit of `_lookback_start`. -/
def lookbackUnitMicroseconds (lookbackUnit : Text) : ℤ :=
  let unit := loweredOr lookbackUnit "day"
  if unit = "minute" ∨ unit = "minutes" then 60 * 1000000
  else if unit = "hour" ∨ unit = "hours" then 60 * 60 * 1000000
  else if unit = "week" ∨ unit = "weeks" then 7 * 24 * 60 * 60 * 1000000
  else 24 * 60 * 60 * 1000000

/-- `_lookback_start` at a reading of the clock. -/
def lookbackStart (now : ℕ) (lookbackAmount : ℤ) (lookbackUnit : Text) : Except PyError Datetime :=
  let start := now - max lookbackAmount 0 * lookbackUnitMicroseconds lookbackUnit
  -- `datetime.min`.
  if start < -62135596800000000 then
    .error (.builtin "OverflowError" "date value out of range")
  else .ok ⟨start, true⟩

/-- The query of `_scope_filter_kwargs`. -/
def scopeQuery (definition : Definition) : EventStore.Query :=
  let scopeKind := lowered definition.scopeKind
  let scopeId := Text.strip definition.scopeId
  if scopeKind = "dataset" then { datasetId := some scopeId }
  else if scopeKind = "domain" then { domainId := some scopeId }
  else if scopeKind = "data_product" then { dataProductId := some scopeId }
  else if scopeKind = "rule" then { ruleId := some scopeId }
  else {}

def loadEventsForDefinition [PyDatetime] (now : ℕ) (definition : Definition) (store : EventStore) :
    Except PyError (List DqResultEvent) := do
  let start ← lookbackStart now definition.lookbackAmount definition.lookbackUnit
  EventStore.listResultEvents store
    { scopeQuery definition with emittedAfter := some (PyDatetime.isoformat start), limit := 250 }

end Selection

/-! ### Metrics -/

section Metrics

variable [PyRuntime]

/-- `round(value, 2)`. -/
def round2 (value : PyFloat) : PyFloat :=
  onFinite value fun q => (roundHalfEven (q * 100) : ℚ) / 100

def eventMetricName (metricKind : Text) : Text :=
  let normalized := lowered metricKind
  if normalized ∈ ["freshness".toList, "completeness".toList, "validity".toList] then
    normalized ++ "_score".toList
  else "quality_score".toList

/-- `_lookup_dimension_value`: of the dimension with the name, else the score of the outcome. -/
def lookupDimensionValue (event : DqResultEvent) (metricName : Text) : Option PyFloat :=
  match event.scoreDimensions.find? fun dimension => lowered dimension.name == metricName with
  | some dimension => dimension.value.or
      (dimension.normalizedValue.map fun value => round2 (onFinite value (· * 100)))
  | none => event.runOutcome.score

def metricValueOf (metricName : Text) (event : DqResultEvent) : Option PyFloat :=
  (lookupDimensionValue event metricName).or (lookupDimensionValue event "quality_score")

omit [PyRuntime] in
/-- `_meets_target` of a value. -/
def meetsTarget (metricValue : PyFloat) (thresholdOperator : Text) (thresholdValue : PyFloat) :
    Bool :=
  if thresholdOperator = "lte" then metricValue.le thresholdValue
  else thresholdValue.le metricValue

omit [PyRuntime] in
def observedAtOf (event : DqResultEvent) : Text :=
  textOr event.runOutcome.observedAt (some event.emittedAt)

omit [PyRuntime] in
/-- `_event_timestamp` at a reading of the clock. -/
def eventTimestamp [PyDatetime] (now : ℕ) (event : DqResultEvent) : Datetime :=
  if observedAtOf event = [] then Datetime.now now
  else (Datetime.ofText (observedAtOf event)).getD (Datetime.now now)

omit [PyRuntime] in
/-- `sorted(events, key=_event_timestamp)`, which stops where some times have a time zone and some
have none. -/
def orderEvents [PyDatetime] (now : ℕ) (events : List DqResultEvent) :
    Except PyError (List DqResultEvent) :=
  if events.all (fun event => (eventTimestamp now event).aware) ||
      events.all (fun event => !(eventTimestamp now event).aware) then
    .ok (Sorted.sortOn (fun event => (eventTimestamp now event).microseconds) events)
  else .error (.builtin "TypeError" "can't compare offset-naive and offset-aware datetimes")

omit [PyRuntime] in
/-- An integer as it is written. -/
def natText (n : ℕ) : Text := (toString n).toList

omit [PyRuntime] in
/-- The adherence without events. -/
def noHistory (definition : Definition) : Adherence where
  metricValue := none
  thresholdValue := definition.thresholdValue
  thresholdOperator := definition.thresholdOperator
  observedEventCount := 0
  compliantEventCount := 0
  nonCompliantEventCount := 0
  complianceRatePct := none
  currentValue := none
  currentObservedAt := none
  latestObservedAt := none
  meetsTarget := none
  summary := "No matching history is available yet."

/-- The adherence of a rate: of the runs that passed, or of those that failed. -/
def rateAdherence (definition : Definition) (ordered : List DqResultEvent) (latest : DqResultEvent)
    (incidents : Bool) : Adherence :=
  let total := ordered.length
  let compliant := ordered.countP fun event => event.runOutcome.passed == some true
  let counted := if incidents then total - compliant else compliant
  let metricValue := scoreOfCounts counted total
  { metricValue := some metricValue
    thresholdValue := definition.thresholdValue
    thresholdOperator := definition.thresholdOperator
    observedEventCount := total
    compliantEventCount := compliant
    nonCompliantEventCount := total - compliant
    complianceRatePct := some (if incidents then round2 (onFinite metricValue (100 - ·))
      else metricValue)
    currentValue := some metricValue
    currentObservedAt := some (observedAtOf latest)
    latestObservedAt := some (observedAtOf latest)
    meetsTarget := some (meetsTarget metricValue (loweredOr definition.thresholdOperator "gte")
      definition.thresholdValue)
    summary := natText counted ++ " of " ++ natText total ++
      (if incidents then " runs failed" else " runs passed").toList ++
      " in the lookback window." }

/-- The adherence of the values of a metric: the last one decides. -/
def valueAdherence (definition : Definition) (ordered : List DqResultEvent)
    (latest : DqResultEvent) : Adherence :=
  let operator := loweredOr definition.thresholdOperator "gte"
  let metricName := eventMetricName (loweredOr definition.metricKind "quality_score")
  let values := ordered.filterMap (metricValueOf metricName)
  match values.getLast? with
  | none =>
    { metricValue := none
      thresholdValue := definition.thresholdValue
      thresholdOperator := definition.thresholdOperator
      observedEventCount := ordered.length
      compliantEventCount := 0
      nonCompliantEventCount := ordered.length
      complianceRatePct := none
      currentValue := none
      currentObservedAt := none
      latestObservedAt := some (observedAtOf latest)
      meetsTarget := none
      summary := "No metric values were available for " ++ definition.metricKind ++
        "." }
  | some current =>
    let compliant := values.countP fun value => meetsTarget value operator definition.thresholdValue
    { metricValue := some current
      thresholdValue := definition.thresholdValue
      thresholdOperator := definition.thresholdOperator
      observedEventCount := values.length
      compliantEventCount := compliant
      nonCompliantEventCount := values.length - compliant
      complianceRatePct := some (scoreOfCounts compliant values.length)
      currentValue := some current
      currentObservedAt := some (observedAtOf latest)
      latestObservedAt := some (observedAtOf latest)
      meetsTarget := some (meetsTarget current operator definition.thresholdValue)
      summary := natText compliant ++ " of " ++ natText values.length ++
        " observed runs met the " ++ definition.metricKind ++ " target." }

variable [PyDatetime]

/-- `_build_adherence` at a reading of the clock. -/
def buildAdherence (now : ℕ) (definition : Definition) (events : List DqResultEvent) :
    Except PyError Adherence := do
  let ordered ← orderEvents now events
  let metricKind := loweredOr definition.metricKind "quality_score"
  return match ordered.getLast? with
    | none => noHistory definition
    | some latest =>
      if metricKind = "critical_rule_pass_rate" then
        rateAdherence definition ordered latest false
      else if metricKind = "incident_rate" then
        rateAdherence definition ordered latest true
      else valueAdherence definition ordered latest

/-- The adherence that is computed for a definition at a reading of the clock. -/
def adherenceOf (now : ℕ) (definition : Definition) (store : EventStore) :
    Except PyError Adherence := do
  buildAdherence now definition (← loadEventsForDefinition now definition store)

end Metrics

/-! ### Breaches -/

section Breaches

variable [PyRuntime]

def breachSeverity (definition : Definition) : Text :=
  if lowered definition.metricKind ∈ ["incident_rate".toList, "critical_rule_pass_rate".toList] then
    "high".toList
  else "warning".toList

/-- `emitted_at` of a breach. -/
def breachEmittedAt [PyDatetime] (now : ℕ) (adherence : Adherence) : Text :=
  (normalizedText (some (textOr adherence.latestObservedAt adherence.currentObservedAt))).getD
    (Datetime.nowIso now)

def buildBreachEvent [PyDatetime] (now : ℕ) (definition : Definition) (adherence : Adherence) :
    DqResultEvent :=
  let emittedAt := breachEmittedAt now adherence
  let metricName := match Text.strip (if definition.metricKind = [] then "quality_score"
      else definition.metricKind) with
    | [] => "quality_score"
    | c :: cs => c :: cs
  let scopeKind := lowered definition.scopeKind
  let scopeId := Text.strip definition.scopeId
  { emittedAt
    severity := breachSeverity definition
    dataset := {
      id := if scopeId = [] then definition.id else scopeId
      name := some definition.name
      workspaceId := some definition.workspaceId
      dataProductId := if scopeKind = "data_product" then some scopeId else none
      dataObjectId := if scopeKind = "dataset" then some scopeId else none
      dataObjectVersionId := none }
    domain := if scopeKind = "domain" ∧ scopeId ≠ [] then some ⟨scopeId, some definition.name⟩
      else none
    rule := {
      id := definition.id
      name := some definition.name
      workspaceId := none
      versionId := none
      versionNumber := none
      taxonomy := {} }
    runOutcome := {
      status := "failed"
      result := some "breach"
      passed := some false
      totalCount := some adherence.observedEventCount
      validCount := some adherence.compliantEventCount
      invalidCount := some adherence.nonCompliantEventCount
      warningCount := some 0
      errorCount := some adherence.nonCompliantEventCount
      score := adherence.currentValue
      scoreLabel := some metricName
      observedAt := some emittedAt
      durationMs := none
      message := some adherence.summary }
    scoreDimensions := [{
      name := metricName
      value := adherence.currentValue
      maximum := some (.finite 100)
      normalizedValue := none
      threshold := some definition.thresholdValue
      passed := some false
      reason := some adherence.summary }]
    correlation := {
      correlationId := "sla-slo:" ++ definition.id ++ ':' :: emittedAt
      runId := some definition.id
      requestId := some definition.workspaceId
      queueMessageId := none
      traceId := none
      parentCorrelationId := none
      sourceSystem := some "service-levels" } }

end Breaches

end ServiceLevels

end DqMadeEasy
