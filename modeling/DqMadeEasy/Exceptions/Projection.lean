import DqMadeEasy.Exceptions.Summary

/-!
# The projection of reason analytics

Exception records are grouped by the hour and the scope of their detection. A row of the projection
counts the records of its group, whatever runs they come from, and keeps the earliest time of a
detection; it is selected and put in a bucket as a whole.
-/

namespace DqMadeEasy

/-- A text that is not blank and has no white space around it. -/
structure CanonicalText where
  text : Text
  strip_text : Text.strip text = text
  ne_nil : text ≠ []

namespace CanonicalText

def ofText? (t : Text) : Option CanonicalText :=
  if h : Text.strip t = [] then none else some ⟨Text.strip t, Text.strip_strip t, h⟩

theorem text_of_ofText? {t : Text} {c : CanonicalText} (h : ofText? t = some c) :
    c.text = Text.strip t := by
  rw [ofText?] at h
  split at h
  · cases h
  · rw [← Option.some.inj h]

end CanonicalText

namespace Exceptions

open Runs Worker

/-! ### Facts -/

/-- What the projection reads of a record. -/
structure ExceptionFact where
  detectedAt : ℤ
  reasonCode : CanonicalText
  reasonText : CanonicalText
  dataObjectVersionId : CanonicalText
  executionRunId : CanonicalText
  ruleId : CanonicalText
  recordIdentifierValue : CanonicalText
  engineType : CanonicalText
  deliveryId : Option Text
  executionPlanId : Option Text
  executionPlanVersionId : Option Text
  suiteId : Option Text
  ruleVersionId : Option Text

section Facts

variable [PyRuntime] [PyNumerals] [PyIsoDatetime]

/-- The first half of the loop of `build_reason_analytics_projection_rows`, which reads a record. -/
def exceptionFact (record : ExceptionRecordCreateEntity) : Except PyError ExceptionFact := do
  match ← parseIsoDatetime record.detectedAt with
  | none => .error (.builtin "ValueError" "Exception record is missing detected_at")
  | some detectedAt =>
    let ops := record.opsMetadata
    match CanonicalText.ofText? record.reasonCode, CanonicalText.ofText? record.reasonText,
      CanonicalText.ofText? record.dataObjectVersionId,
      CanonicalText.ofText? record.executionRunId, CanonicalText.ofText? record.ruleId,
      CanonicalText.ofText? record.recordIdentifierValue,
      CanonicalText.ofText? record.recordIdentifierType,
      (readText ops ["engine_type", "engineType"]).bind CanonicalText.ofText? with
    | some reasonCode, some reasonText, some dataObjectVersionId, some executionRunId, some ruleId,
      some recordIdentifierValue, some _, some engineType =>
      .ok {
        detectedAt := detectedAt
        reasonCode := reasonCode
        reasonText := reasonText
        dataObjectVersionId := dataObjectVersionId
        executionRunId := executionRunId
        ruleId := ruleId
        recordIdentifierValue := recordIdentifierValue
        engineType := engineType
        deliveryId := readText ops ["delivery_id", "deliveryId"]
        executionPlanId := readText ops ["execution_plan_id", "executionPlanId"]
        executionPlanVersionId :=
          readText ops ["execution_plan_version_id", "executionPlanVersionId"]
        suiteId := readText ops ["suite_id", "validation_artifact_id", "suiteId"]
        ruleVersionId := readText ops ["rule_version_id", "ruleVersionId"] }
    | _, _, _, _, _, _, _, _ =>
      .error (.builtin "ValueError" "Exception record is missing canonical projection metadata")

/-- What a fact says of its record. -/
structure ReadsRecord (fact : ExceptionFact) (record : ExceptionRecordCreateEntity) : Prop where
  detectedAt : parseIsoDatetime record.detectedAt = .ok (some fact.detectedAt)
  reasonCode : fact.reasonCode.text = Text.strip record.reasonCode
  reasonText : fact.reasonText.text = Text.strip record.reasonText
  dataObjectVersionId : fact.dataObjectVersionId.text = Text.strip record.dataObjectVersionId
  executionRunId : fact.executionRunId.text = Text.strip record.executionRunId
  ruleId : fact.ruleId.text = Text.strip record.ruleId

theorem exceptionFact_ok {record : ExceptionRecordCreateEntity} {fact : ExceptionFact}
    (h : exceptionFact record = .ok fact) : ReadsRecord fact record := by
  obtain ⟨detectedAt, hdetected, h⟩ := ok_of_bind h
  cases detectedAt with
  | none => cases h
  | some detectedAt =>
    dsimp only at h
    split at h
    · rename_i _ _ _ _ _ _ _ _ hcode htext hversion hrun hrule _ _ _
      rw [← Except.ok.inj h]
      exact ⟨hdetected, CanonicalText.text_of_ofText? hcode, CanonicalText.text_of_ofText? htext,
        CanonicalText.text_of_ofText? hversion, CanonicalText.text_of_ofText? hrun,
        CanonicalText.text_of_ofText? hrule⟩
    · cases h

end Facts

/-! ### Rows -/

/-- A row of the projection. -/
structure ProjectionRow where
  id : Text
  bucketStart : Text
  engineType : Text
  deliveryId : Option Text
  executionPlanId : Option Text
  executionPlanVersionId : Option Text
  suiteId : Option Text
  dataObjectVersionId : Text
  ruleId : Text
  ruleVersionId : Option Text
  reasonCode : Text
  reasonTextSnapshot : Text
  recordIdentifierValues : List Text
  executionRunIds : List Text
  failedRecordCount : ℕ
  distinctRecordIdentifierCount : ℕ
  distinctExecutionRunCount : ℕ
  detectedAt : Text

section Rows

variable [PyIsoDatetime] [PySha256]

/-- `_build_projection_key`. -/
def ExceptionFact.projectionKey (fact : ExceptionFact) : Text :=
  "exception-reason-analytics-" ++ PySha256.hexdigest (Text.join ['|'] [
    formatIsoDatetime (truncateToHour fact.detectedAt), fact.engineType.text,
    fact.deliveryId.getD [], fact.executionPlanId.getD [], fact.executionPlanVersionId.getD [],
    fact.suiteId.getD [], fact.dataObjectVersionId.text, fact.ruleId.text,
    fact.ruleVersionId.getD [], fact.reasonCode.text, fact.reasonText.text])

/-- The row of a record alone. -/
def ExceptionFact.row (fact : ExceptionFact) : ProjectionRow where
  id := fact.projectionKey
  bucketStart := formatIsoDatetime (truncateToHour fact.detectedAt)
  engineType := fact.engineType.text
  deliveryId := fact.deliveryId
  executionPlanId := fact.executionPlanId
  executionPlanVersionId := fact.executionPlanVersionId
  suiteId := fact.suiteId
  dataObjectVersionId := fact.dataObjectVersionId.text
  ruleId := fact.ruleId.text
  ruleVersionId := fact.ruleVersionId
  reasonCode := fact.reasonCode.text
  reasonTextSnapshot := fact.reasonText.text
  recordIdentifierValues := [fact.recordIdentifierValue.text]
  executionRunIds := [fact.executionRunId.text]
  failedRecordCount := 1
  distinctRecordIdentifierCount := 1
  distinctExecutionRunCount := 1
  detectedAt := formatIsoDatetime fact.detectedAt

omit [PySha256] in
/-- A row with one more record. -/
def ProjectionRow.addFact (existing : ProjectionRow) (fact : ExceptionFact) : ProjectionRow :=
  let detectedAt := formatIsoDatetime fact.detectedAt
  { existing with
    failedRecordCount := existing.failedRecordCount + 1
    recordIdentifierValues := existing.recordIdentifierValues ++ [fact.recordIdentifierValue.text]
    executionRunIds := existing.executionRunIds ++ [fact.executionRunId.text]
    detectedAt := if detectedAt < existing.detectedAt then detectedAt else existing.detectedAt }

omit [PyIsoDatetime] [PySha256] in
/-- `sorted` of the set of the texts that are not blank. -/
def sortedTexts (values : List Text) : List Text :=
  Sorted.sortOn id (normalizedTexts values).eraseDups

omit [PyIsoDatetime] [PySha256] in
/-- A row with its lists sorted and counted. -/
def ProjectionRow.finish (row : ProjectionRow) : ProjectionRow :=
  let recordIdentifiers := sortedTexts row.recordIdentifierValues
  let runIds := sortedTexts row.executionRunIds
  { row with
    recordIdentifierValues := recordIdentifiers
    executionRunIds := runIds
    distinctRecordIdentifierCount := recordIdentifiers.length
    distinctExecutionRunCount := runIds.length }

def factGroups (facts : List ExceptionFact) : List (Text × ProjectionRow) :=
  Grouping.groupOn ExceptionFact.projectionKey ExceptionFact.row ProjectionRow.addFact facts

def projectionRows (facts : List ExceptionFact) : List ProjectionRow :=
  Sorted.sortOn (fun row =>
      toLex (row.bucketStart, toLex (row.reasonCode, row.reasonTextSnapshot)))
    ((factGroups facts).map fun entry => entry.2.finish)

variable [PyRuntime] [PyNumerals]

def buildReasonAnalyticsProjectionRows (records : List ExceptionRecordCreateEntity) :
    Except PyError (List ProjectionRow) :=
  (records.mapM exceptionFact).map projectionRows

/-! ### The summary of the rows -/

omit [PyNumerals] [PySha256] [PyRuntime] in
/-- One round of the loop of `summarize_reason_analytics_projection_rows` that filters. -/
def examineRow (w : Selection) (row : ProjectionRow) : Except PyError (Option ProjectionRow) :=
  if Text.strip row.dataObjectVersionId ∉ w.scopeIds then .ok none
  else if ∀ runId ∈ normalizedTexts row.executionRunIds, runId ∉ w.runIds then .ok none
  else do
    let detectedAt ← parseIsoDatetime (some row.detectedAt)
    return if w.inWindow detectedAt ∧ w.acceptsReason (Text.strip row.reasonCode) then some row
      else none

omit [PyIsoDatetime] [PyNumerals] [PySha256] [PyRuntime] in
/-- The check of a row before it is counted. -/
def checkRow (row : ProjectionRow) : Except PyError Unit :=
  if Text.strip row.ruleId = [] ∨ Text.strip row.dataObjectVersionId = [] ∨
      normalizedTexts row.executionRunIds = [] ∨ Text.strip row.bucketStart = [] ∨
      Text.strip row.reasonCode = [] ∨ Text.strip row.reasonTextSnapshot = [] then
    .error (.builtin "RuntimeError"
      "GX exception reason analytics projection is missing canonical metadata")
  else .ok ()

omit [PyNumerals] [PySha256] in
/-- What a row is counted as: under its hour, or under its bucket where there are buckets. -/
def occurrenceOfRow (w : Selection) (row : ProjectionRow) : Except PyError Occurrence := do
  let bucket ← match w.buckets with
    | none => .ok (some (Text.strip row.bucketStart))
    | some _ => do w.bucketStart Buckets.rowStart (← parseIsoDatetime (some row.detectedAt))
  return {
    place := ⟨Text.strip row.ruleId, Text.strip row.dataObjectVersionId, Text.strip row.reasonCode,
      Text.strip row.reasonTextSnapshot, bucket⟩
    runIds := normalizedTexts row.executionRunIds
    count := row.failedRecordCount }

omit [PyNumerals] [PySha256] in
def summarizeReasonAnalyticsProjectionRows (rows : List ProjectionRow) (q : SummaryQuery) :
    Except PyError ViolationSummary := do
  match ← q.select with
  | none => return {}
  | some w =>
    let filtered ← Collect.collect (examineRow w) none 0 rows
    let _ ← filtered.mapM checkRow
    let occurrences ← filtered.mapM (occurrenceOfRow w)
    return summaryOf occurrences

end Rows

end Exceptions

end DqMadeEasy
