import DqMadeEasy.Logic.Collect
import DqMadeEasy.Queries.Scope

/-!
# Summaries of runs

A listing examines the runs of its lookback window one after the other: it keeps the summaries of
those that match the scope and the texts of the query, up to a limit. The statistics count the
listing without a limit.
-/

namespace DqMadeEasy

namespace Queries

open Runs Worker Artifacts

/-- `str.casefold`. -/
class PyCasefold where
  casefold : Text → Text
  casefold_ascii : ∀ t : Text, (∀ c ∈ t, c.toNat < 128) → casefold t = t.map Char.toLower

/-- `GxExecutionRunSummaryEntity`. -/
structure GxExecutionRunSummary where
  id : Text
  suiteId : Option Text
  suiteVersion : Option ℤ
  ruleId : Option Text
  ruleName : Option Text
  owner : Option Text
  domain : Option Text
  severity : Option Text
  runPlanId : Option Text
  dataObjectVersionId : Option Text
  dataObjectNames : List Text
  resolvedDataDeliveryId : Option Text
  correlationId : Text
  requestedBy : Option Text
  engineType : Text
  engineTarget : Text
  executionShape : Text
  status : Text
  failedRecordCount : ℕ
  submittedAt : Text
  startedAt : Option Text
  completedAt : Option Text
  createdAt : ℕ
  updatedAt : ℕ

/-! ### Names -/

/-- Owner, domain and severity of a rule. -/
structure Taxonomy where
  owner : Option Text
  domain : Option Text
  severity : Option Text

/-- The four maps that a summary takes its names from. -/
structure NameMaps where
  ruleNameById : Text → Option Text
  ruleTaxonomyById : Text → Option Taxonomy
  dataObjectNameById : Text → Option Text
  dataObjectNameByVersionId : Text → Option Text

/-- `{str(run.ruleId or "") for run in runs if str(run.ruleId or "").strip()}`. -/
def ruleIdsOf (runs : List (RunEntity Text)) : List Text :=
  (runs.map fun run => run.ruleId.getD []).filter fun id => Text.strip id ≠ []

def resolveRuleNameMap (R : Repositories) (ruleIds : List Text) (ruleId : Text) : Option Text :=
  if ruleId ∈ ruleIds then (R.getRuleById ruleId).bind fun rule => nonBlank rule.name else none

def resolveRuleTaxonomyMap (R : Repositories) (ruleIds : List Text) (ruleId : Text) :
    Option Taxonomy :=
  if ruleId ∈ ruleIds then
    (R.getRuleById ruleId).bind fun rule =>
      let owner := firstText [rule.taxonomy.bind fun taxonomy => taxonomy.1, rule.owner]
      let domain := firstText [rule.taxonomy.bind fun taxonomy => taxonomy.2.1, rule.domain]
      let severity := firstText [rule.taxonomy.bind fun taxonomy => taxonomy.2.2, rule.severity]
      if owner.isSome || domain.isSome || severity.isSome then some ⟨owner, domain, severity⟩
      else none
  else none

/-- `data_object_name_by_id` of `resolve_data_object_name_maps`. -/
def dataObjectNameById (R : Repositories) (id : Text) : Option Text :=
  Assoc.find? (R.listDataObjectsCatalog.filter fun item =>
    Text.strip item.1 ≠ [] ∧ Text.strip item.2 ≠ []).reverse id

/-- `data_object_name_by_version_id` of `resolve_data_object_name_maps`. -/
def dataObjectNameByVersionId (R : Repositories) (id : Text) : Option Text :=
  Assoc.find? ((R.listDataObjectVersions.filter fun item => Text.strip item.1 ≠ []).map fun item =>
    (item.1, (dataObjectNameById R item.2).getD item.1)).reverse id

/-- The maps that a query resolves for its runs. -/
def resolveNameMaps (R : Repositories) (runs : List (RunEntity Text)) : NameMaps where
  ruleNameById := resolveRuleNameMap R (ruleIdsOf runs)
  ruleTaxonomyById := resolveRuleTaxonomyMap R (ruleIdsOf runs)
  dataObjectNameById := dataObjectNameById R
  dataObjectNameByVersionId := dataObjectNameByVersionId R

section Summaries

variable [PyRuntime] [PyNumerals]

/-! ### Counts of failed records -/

/-- `_read_non_negative_int`, which lets an infinity pass. -/
def readNonNegativeInt (value : Json) : Except PyError (Option ℕ) :=
  match pyInt value with
  | .ok n => .ok (if n < 0 then none else some n.toNat)
  | .error exc => if exc.className = "OverflowError" then .error exc else .ok none

/-- The first of some values that is a count. -/
def firstCount : List Json → Except PyError (Option ℕ)
  | [] => .ok none
  | value :: values => do
    match ← readNonNegativeInt value with
    | some n => return some n
    | none => firstCount values

def countFields (result : Dict) : List Json :=
  [field result "records_failed" "recordsFailed", field result "failed_count" "failedCount",
    field result "violation_count" "violationCount"]

/-- `build_gx_execution_result_item_entities`. -/
def resultItems (resultSummary : Dict) : List Dict :=
  (((resultSummary.get "results").asList?).getD []).filterMap Json.asDict?

/-- What an item of a result summary adds. -/
def itemCount (item : Dict) : Except PyError ℕ := do
  match ← firstCount (countFields item) with
  | some n => return n
  | none =>
    match item.get "ok" with
    | .scalar (.bool false) => return 1
    | _ => return 0

def extractFailedRecordCount (run : RunEntity Text) : Except PyError ℕ := do
  match ← firstCount (countFields run.resultSummary) with
  | some n => return n
  | none => return (← (resultItems run.resultSummary).mapM itemCount).sum

/-! ### The summary of a run -/

def collectDataObjectNames (names : NameMaps) (run : RunEntity Text) : Option Text × List Text :=
  let versionId := (run.executionContract.bind fun contract => contract.traceability).bind
    fun traceability => nonBlank (traceability.dataObjectVersionId.getD [])
  let sources := match run.executionContract.bind fun contract => contract.sourceMaterialization with
    | some materialization => [materialization.leftSource, materialization.rightSource]
    | none => []
  let ofVersion := (versionId.bind names.dataObjectNameByVersionId).toList
  let ofSources := sources.filterMap fun source =>
    (nonBlank ((source.bind fun source => source.dataObjectId).getD [])).bind
      names.dataObjectNameById
  (versionId, (ofVersion ++ ofSources).eraseDups)

def resultVersionIds (run : RunEntity Text) : List Text :=
  (resultItems run.resultSummary).filterMap fun item =>
    nonBlank (field item "data_object_version_id" "dataObjectVersionId").strippedText

/-- The data object version of a summary, and the names of its data objects. -/
def summaryDataObjects (names : NameMaps) (run : RunEntity Text) : Option Text × List Text :=
  match collectDataObjectNames names run with
  | (some versionId, objectNames) => (some versionId, objectNames)
  | (none, objectNames) =>
    let candidates := resultVersionIds run
    (candidates.head?, (objectNames ++ candidates.map fun id =>
      (names.dataObjectNameByVersionId id).getD id).eraseDups)

def runEngineType (run : RunEntity Text) : Except PyError Text :=
  let context := if Text.strip run.id = [] then "GX execution run"
    else "GX execution run '" ++ String.ofList (Text.strip run.id) ++ "'"
  match nonBlank run.engineType with
  | some engineType => .ok engineType
  | none => .error (.builtin "ValueError" (context ++ " requires explicit engine_type"))

/-- A text, or another one if it is empty. -/
def orText (t : Text) (default : String) : Text := if t = [] then default.toList else t

def buildGxExecutionRunSummary (names : NameMaps) (run : RunEntity Text) :
    Except PyError GxExecutionRunSummary := do
  let ruleId := nonBlank (run.ruleId.getD [])
  let objects := summaryDataObjects names run
  let executionShape := orText run.executionShape "single_object"
  let ruleName := ruleId.bind names.ruleNameById
  let taxonomy := ruleId.bind names.ruleTaxonomyById
  let failedRecordCount ← extractFailedRecordCount run
  let engineType ← runEngineType run
  return {
    id := run.id
    suiteId := run.suiteId
    suiteVersion := run.suiteVersion
    ruleId := ruleId
    ruleName := ruleName.or
      (if executionShape = "grouped_scope" then some "Grouped scope run" else none)
    owner := taxonomy.bind Taxonomy.owner
    domain := taxonomy.bind Taxonomy.domain
    severity := taxonomy.bind Taxonomy.severity
    runPlanId := extractRunExecutionPlanId run
    dataObjectVersionId := objects.1
    dataObjectNames := objects.2.filter fun name => Text.strip name ≠ []
    resolvedDataDeliveryId := extractRunDeliveryId run
    correlationId := run.correlationId
    requestedBy := run.requestedBy
    engineType := engineType
    engineTarget := orText run.engineTarget "pyspark"
    executionShape := executionShape
    status := run.status.text
    failedRecordCount := failedRecordCount
    submittedAt := run.submittedAt
    startedAt := run.startedAt
    completedAt := run.completedAt
    createdAt := run.createdAt
    updatedAt := run.updatedAt }

theorem buildGxExecutionRunSummary_ok {names : NameMaps} {run : RunEntity Text}
    {summary : GxExecutionRunSummary} (h : buildGxExecutionRunSummary names run = .ok summary) :
    summary.id = run.id ∧ summary.runPlanId = extractRunExecutionPlanId run := by
  obtain ⟨count, -, h⟩ := ok_of_bind h
  obtain ⟨engineType, -, h⟩ := ok_of_bind h
  rw [← Except.ok.inj h]
  exact ⟨rfl, rfl⟩

/-! ### Filtering -/

section Filtering

variable [PyCasefold]

def normalizeSearchTerm (value : Option Text) : Text :=
  PyCasefold.casefold (Text.strip (value.getD []))

/-- The texts that a query looks for. -/
structure SummaryFilters where
  ruleName : Option Text := none
  owner : Option Text := none
  domain : Option Text := none
  severity : Option Text := none
  dataObjectName : Option Text := none
  search : Option Text := none

omit [PyRuntime] [PyNumerals] in
def found (term : Option Text) (candidates : List Text) : Bool :=
  let normalized := normalizeSearchTerm term
  normalized = [] || candidates.any fun candidate => decide (normalized <:+: candidate)

omit [PyRuntime] [PyNumerals] in
/-- The texts of a summary that `search` looks into. -/
def haystack (summary : GxExecutionRunSummary) : List Text :=
  ([some summary.id, summary.suiteId, some summary.correlationId, summary.requestedBy,
    summary.dataObjectVersionId, some summary.executionShape, some summary.status,
    some summary.engineType, some summary.engineTarget, summary.ruleName, summary.ruleId,
    summary.owner, summary.domain, summary.severity].map normalizeSearchTerm) ++
  summary.dataObjectNames.map fun name => normalizeSearchTerm (some name)

omit [PyRuntime] [PyNumerals] in
/-- Whether a summary has the texts that a query looks for. -/
def SummaryFilters.pass (filters : SummaryFilters) (summary : GxExecutionRunSummary) : Bool :=
  found filters.ruleName
    [normalizeSearchTerm summary.ruleName, normalizeSearchTerm summary.ruleId] &&
  found filters.owner [normalizeSearchTerm summary.owner] &&
  found filters.domain [normalizeSearchTerm summary.domain] &&
  found filters.severity [normalizeSearchTerm summary.severity] &&
  found filters.dataObjectName
    (summary.dataObjectNames.map fun name => normalizeSearchTerm (some name)) &&
  found filters.search ((haystack summary).filter (· ≠ []))

/-- One round of the loop of `filter_gx_execution_run_summaries`. -/
def examineRun (names : NameMaps) (filters : SummaryFilters) (scope : RunScope)
    (run : RunEntity Text) : Except PyError (Option GxExecutionRunSummary) := do
  if ← runMatchesScope scope run then
    let summary ← buildGxExecutionRunSummary names run
    return if filters.pass summary then some summary else none
  else return none

def filterGxExecutionRunSummaries (runs : List (RunEntity Text)) (names : NameMaps)
    (filters : SummaryFilters) (limit : Option ℤ) (scope : RunScope) :
    Except PyError (List GxExecutionRunSummary) :=
  Collect.collect (examineRun names filters scope) limit 0 runs

/-- What the loop keeps of a run. -/
theorem examineRun_some {names : NameMaps} {filters : SummaryFilters} {scope : RunScope}
    {run : RunEntity Text} {summary : GxExecutionRunSummary} :
    examineRun names filters scope run = .ok (some summary) ↔
      runMatchesScope scope run = .ok true ∧
        buildGxExecutionRunSummary names run = .ok summary ∧ filters.pass summary = true := by
  rw [examineRun]
  cases runMatchesScope scope run with
  | error e => exact iff_of_false nofun fun h => nomatch h.1
  | ok inScope =>
    rw [ok_bind]
    cases inScope with
    | false => exact iff_of_false nofun fun h => nomatch h.1
    | true =>
      rw [if_pos rfl]
      cases buildGxExecutionRunSummary names run with
      | error e => exact iff_of_false nofun fun h => nomatch h.2.1
      | ok built =>
        cases hpass : filters.pass built with
        | false =>
          refine iff_of_false (fun h => ?_) fun h => ?_
          · simp [hpass, pure, Except.pure] at h
          · cases h.2.1
            exact Bool.false_ne_true (hpass.symm.trans h.2.2)
        | true => simp [hpass, pure, Except.pure]; grind

theorem examineRun_of_matches {names : NameMaps} {filters : SummaryFilters} {scope : RunScope}
    {run : RunEntity Text} {summary : GxExecutionRunSummary}
    {kept : Option GxExecutionRunSummary}
    (hmatches : ∀ answer, runMatchesScope scope run = .ok answer → answer = true)
    (hbuilt : buildGxExecutionRunSummary names run = .ok summary)
    (hpass : filters.pass summary = true)
    (h : examineRun names filters scope run = .ok kept) : kept = some summary := by
  obtain ⟨answer, hanswer, -⟩ := ok_of_bind h
  have htrue := hmatches answer hanswer
  rw [htrue] at hanswer
  have hsome := examineRun_some.mpr ⟨hanswer, hbuilt, hpass⟩
  exact Except.ok.inj (h.symm.trans hsome)

end Filtering

/-! ### Listing and statistics -/

/-- The fields that the queries for runs share. -/
structure RunsQuery where
  lookbackAmount : ℤ
  lookbackUnit : Text
  status : Option Text
  filters : SummaryFilters
  catalog : CatalogScope
  deliveryId : Option Text
  workspaceId : Option Text
  runPlanId : Option Text

/-- `ListGxExecutionRunsQuery`. -/
structure ListGxExecutionRunsQuery extends RunsQuery where
  limit : Option ℤ

/-- `GxExecutionRunStatisticsQuery`. -/
structure GxExecutionRunStatisticsQuery extends RunsQuery where
  recentLimit : ℤ

/-- `_resolve_submitted_after`, in microseconds. -/
def resolveSubmittedAfter (lookbackAmount : ℤ) (lookbackUnit : Text) (now : ℤ) : ℤ :=
  now - lookbackAmount * (if lookbackUnit = "hours" then 3600000000 else 86400000000)

def RunsQuery.runs (q : RunsQuery) (R : Repositories) (now : ℤ) : List (RunEntity Text) :=
  R.listRuns (resolveSubmittedAfter q.lookbackAmount q.lookbackUnit now) q.status

/-- What a query has its runs match. -/
def RunsQuery.scope (q : RunsQuery) (R : Repositories) : RunScope where
  workspaceRunPlanIds := resolveWorkspaceRunPlanIds R q.workspaceId
  runPlanId := q.runPlanId
  suiteKeys := suiteFilter R q.catalog
  deliveryId := q.deliveryId

variable [PyCasefold]

def listGxExecutionRunSummaries (R : Repositories) (now : ℤ) (q : ListGxExecutionRunsQuery) :
    Except PyError (List GxExecutionRunSummary) :=
  let runs := q.runs R now
  filterGxExecutionRunSummaries runs (resolveNameMaps R runs) q.filters q.limit (q.scope R)

/-- `GxExecutionRunCountEntity`. -/
structure GxExecutionRunCount where
  name : Text
  count : ℕ
  deriving DecidableEq

/-- `GxExecutionRunStatisticsEntity`. -/
structure GxExecutionRunStatistics where
  lookbackAmount : ℤ
  lookbackUnit : Text
  recentLimit : ℤ
  totalRuns : ℕ
  pendingRuns : ℕ
  runningRuns : ℕ
  succeededRuns : ℕ
  failedRuns : ℕ
  cancelledRuns : ℕ
  statusBreakdown : List GxExecutionRunCount
  engineTargetBreakdown : List GxExecutionRunCount
  executionShapeBreakdown : List GxExecutionRunCount
  recentRuns : List GxExecutionRunSummary

omit [PyRuntime] [PyNumerals] [PyCasefold] in
/-- `_build_count_rows` of the counter of some texts. -/
def buildCountRows (values : List Text) : List GxExecutionRunCount :=
  let counted := (values.map Text.strip).filter (· ≠ [])
  Sorted.sortOn (fun row => toLex (-(row.count : ℤ), row.name))
    (counted.eraseDups.map fun name => ⟨name, counted.count name⟩)

/-- `rows[:limit]`. -/
def takeRecent {α : Type} (rows : List α) (limit : ℤ) : List α :=
  if 0 ≤ limit then rows.take limit.toNat else rows.take (rows.length - limit.natAbs)

omit [PyRuntime] [PyNumerals] [PyCasefold] in
theorem mem_of_mem_takeRecent {α : Type} {rows : List α} {limit : ℤ} {row : α}
    (h : row ∈ takeRecent rows limit) : row ∈ rows := by
  rw [takeRecent] at h
  split at h
  · exact List.mem_of_mem_take h
  · exact List.mem_of_mem_take h

/-- The statistics of a listing. -/
def statisticsOf (q : GxExecutionRunStatisticsQuery) (rows : List GxExecutionRunSummary) :
    GxExecutionRunStatistics :=
  let counted (status : RunStatus) :=
    rows.countP fun row => decide (Text.strip row.status = status.text)
  { lookbackAmount := q.lookbackAmount
    lookbackUnit := q.lookbackUnit
    recentLimit := q.recentLimit
    totalRuns := rows.length
    pendingRuns := counted .pending
    runningRuns := counted .running
    succeededRuns := counted .succeeded
    failedRuns := counted .failed
    cancelledRuns := counted .cancelled
    statusBreakdown := buildCountRows (rows.map GxExecutionRunSummary.status)
    engineTargetBreakdown := buildCountRows (rows.map GxExecutionRunSummary.engineTarget)
    executionShapeBreakdown := buildCountRows (rows.map GxExecutionRunSummary.executionShape)
    recentRuns := takeRecent rows q.recentLimit }

def getGxExecutionRunStatistics (R : Repositories) (now : ℤ) (q : GxExecutionRunStatisticsQuery) :
    Except PyError GxExecutionRunStatistics :=
  (listGxExecutionRunSummaries R now { q.toRunsQuery with limit := none }).map (statisticsOf q)

end Summaries

end Queries

end DqMadeEasy
