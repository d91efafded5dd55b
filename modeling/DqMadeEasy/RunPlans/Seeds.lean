import DqMadeEasy.RunPlans.Snapshot
import DqMadeEasy.RunPlans.Translation
import DqMadeEasy.Runs.Schedule

/-!
# Run plans that are made of the registry

`GxRunPlanSeedResolutionService` resolves a command to a seed: one suite with its contract, or the
suites of a scope with their grouped plan and no contract. `create_gx_run_plan` stores the seed as a
version of a validation run plan and returns it as one of a GX run plan, so that its snapshots are
translated twice in each direction before they are validated.
-/

namespace DqMadeEasy

namespace RunPlans

open Artifacts Dispatch Planner Runs Worker

/-! ### Seeds -/

/-- `GxRunPlanSuiteRefEntity`. -/
structure SuiteRef where
  suiteId : Text
  suiteVersion : ℕ
  engineType : Text

/-- `GxRunPlanSuiteSelectionEntity`, of a seed. -/
structure SeedSelection where
  selectionMode : String
  scopeSelector : ScopeSelector
  suiteRefs : List SuiteRef
  groupedExecutionPlan : Option Dict

/-- `GxRunPlanSeedEntity`. Its snapshots hold the suites without what a save adds to them. -/
structure Seed where
  scopeSelector : ScopeSelector
  gxSuiteSelection : SeedSelection
  suiteId : Option Text
  suiteVersion : Option ℕ
  suiteSnapshot : SnapshotPayload GxArtifactEnvelope
  executionContractSnapshot : Option GxExecutionContract

/-- `ResolveGxRunPlanSeedCommand`. -/
structure SeedCommand where
  planningMode : Text
  suiteId : Option Text
  suiteVersion : Option ℤ
  scope : ArtifactFilters
  tagIds : List Text

/-- The fields of a rule record that a tag filter reads. -/
structure TaggedRule where
  id : Text
  tagIds : List Text

/-- The registry, the rules and the planner of a resolver. An artifact is coerced to an envelope, or
refused; its engine type is that of its own field or of its contract. -/
structure SeedServices (Artifact : Type) where
  getArtifactById : Text → Option ℤ → Option Artifact
  listArtifacts : ArtifactFilters → List Artifact
  listRuleRecords : List TaggedRule
  coerceSuiteEntity : Artifact → Except ApiError GxArtifactEnvelope
  artifactEngineType : Artifact → Option Text
  buildPlan : List Artifact → Except ApiError Dict

/-! ### Errors -/

def rejectNonRunnableSuite (suiteId : Text) (suiteVersion : Option ℤ) (message : Text)
    (reason : String) : ApiError :=
  .http 422 [entry "error" (.text "gx_suite_not_runnable"),
    entry "message" (.scalar (.str message)), entry "reason" (.text reason),
    entry "suite_id" (.scalar (.str suiteId)), entry "suite_version" (optInt suiteVersion)]

/-- `HTTPException(status_code=404, detail=f"GX suite '{suite_id}' not found")`. -/
def suiteNotFound (suiteId : Text) : ApiError :=
  .http 404 [entry "detail" (.scalar (.str
    ("GX suite '" ++ suiteId ++ "' not found")))]

/-! ### Scopes -/

/-- `^(odcs\\..+|prod-.+)$`. -/
def isDataProductId (t : Text) : Bool :=
  ["odcs.", "prod-"].any fun start =>
    start.toList.isPrefixOf t && !(t.drop start.length).isEmpty && !(t.drop start.length).contains '\n'

def isGiven (filter : Option Text) : Bool := filter.any (· ≠ [])

/-- `GxSuiteRetrievalQueryEntity` accepts the scope of a command. -/
def scopeIsValid (scope : ArtifactFilters) (tagIds : List Text) : Bool :=
  let given := [scope.dataObjectId, scope.dataObjectVersionId, scope.datasetId,
    scope.dataProductId].countP isGiven
  scope.dataProductId.all isDataProductId && (given == 1 || (given == 0 && !tagIds.isEmpty))

def ruleIdsForTags (records : List TaggedRule) (tagIds : List Text) : List Text :=
  let normalizedTagIds := presentIds tagIds
  presentIds ((records.filter fun record =>
    (presentIds record.tagIds).any (· ∈ normalizedTagIds)).map TaggedRule.id)

def passesTags (matchingRuleIds : List Text) (suite : GxArtifactEnvelope) : Bool :=
  matchingRuleIds.isEmpty || (presentIds suite.compiledFrom.ruleIds).any (· ∈ matchingRuleIds)

/-! ### Snapshots of suites -/

def snapshotSuite (suite : GxArtifactEnvelope) : GxArtifactEnvelope :=
  { suite with savedBy := none, sourcePipeline := none, status := none, artifactHash := none }

/-- The snapshot entity that a resolver builds, with the dumps of the parts of the suite. -/
def resolvedSnapshot (suite : GxArtifactEnvelope) : SingleSuiteSnapshot where
  suiteId := some suite.suiteId
  suiteVersion := some suite.suiteVersion
  artifactVersion := some suite.artifactVersion
  assignmentScope := suite.assignmentScope.modelDump
  resolvedExecutionScope := suite.resolvedExecutionScope.modelDump
  gxSuite := suite.gxSuite
  compiledFrom := suite.compiledFrom.modelDump
  executionHints := suite.executionHints.modelDump
  executionContract := suite.executionContract
  savedBy := none
  sourcePipeline := none

section Resolver

variable [PyRuntime] [PyNumerals] {Artifact : Type} (services : SeedServices Artifact)

/-- `_artifact_engine_type`, of an envelope. -/
def envelopeEngineType (suite : GxArtifactEnvelope) : Option Text :=
  let engineType := PyRuntime.lower (stripped
    (suite.executionContract.bind GxExecutionContract.engineType))
  if engineType = [] then none else some engineType

/-- `_artifact_engine_type(row) or _artifact_engine_type(suite) or "gx"`. -/
def refEngineType (row : Artifact) (suite : GxArtifactEnvelope) : Text :=
  ((services.artifactEngineType row).or (envelopeEngineType suite)).getD "gx"

/-- `_assert_gx_suite_runnable`. -/
def assertRunnable (suite : GxArtifactEnvelope) : Except ApiError Unit :=
  match assertGxSuiteRunnable (envelopeAttributes suite) with
  | .error exc => .error (.raised exc)
  | .ok none => .ok ()
  | .ok (some exc) =>
    .error (rejectNonRunnableSuite exc.suiteId exc.suiteVersion exc.message exc.reason)

/-- The scope of a suite, as a selector of its run plan. -/
def suiteScope (suite : GxArtifactEnvelope) (tagIds : List Text) : ScopeSelector where
  assignmentScope := some ⟨suite.assignmentScope.dataObjectId, suite.assignmentScope.datasetId,
    suite.assignmentScope.dataProductId, suite.assignmentScope.tagIds, []⟩
  dataObjectId := none
  dataObjectVersionId := none
  datasetId := none
  dataProductId := none
  tagIds := tagIds
  workspaceId := none
  extra := []

/-- The seed of one suite. -/
def singleSeed (row : Artifact) (suite : GxArtifactEnvelope) (tagIds : List Text) : Seed where
  scopeSelector := suiteScope suite tagIds
  gxSuiteSelection := ⟨"single_suite", suiteScope suite tagIds,
    [⟨suite.suiteId, suite.suiteVersion, refEngineType services row suite⟩], none⟩
  suiteId := some suite.suiteId
  suiteVersion := some suite.suiteVersion
  suiteSnapshot := .single (snapshotSuite suite)
  executionContractSnapshot := suite.executionContract

/-- `_coerce_suite_entity`, whose `ValidationError` is a suite that is not runnable. -/
def coerceSelectedSuite (suiteId : Text) (suiteVersion : Option ℤ) (row : Artifact) :
    Except ApiError GxArtifactEnvelope :=
  match services.coerceSuiteEntity row with
  | .ok suite => .ok suite
  | .error (.http statusCode detail) => .error (.http statusCode detail)
  | .error (.raised exc) =>
    .error (if exc.className = "ValidationError" then
      rejectNonRunnableSuite suiteId suiteVersion "GX suite envelope is invalid"
        "invalid_envelope"
    else .raised exc)

def resolveSingleSuiteSeed (suiteId : Option Text) (suiteVersion : Option ℤ) (tagIds : List Text) :
    Except ApiError Seed :=
  let normalizedSuiteId := stripped suiteId
  if normalizedSuiteId = [] then
    .error (.http 422 (errorDetail "missing_suite_selector"
      "suite_id is required for single_suite run plans" []))
  else
    match services.getArtifactById normalizedSuiteId suiteVersion with
    | none => .error (suiteNotFound normalizedSuiteId)
    | some row => do
      let suite ← coerceSelectedSuite services normalizedSuiteId suiteVersion row
      assertRunnable suite
      if passesTags (ruleIdsForTags services.listRuleRecords tagIds) suite then
        return singleSeed services row suite tagIds
      else .error (suiteNotFound normalizedSuiteId)

/-- A row of a scope: the suite that it gives, unless the tags leave it out. -/
def selectRow (matchingRuleIds : List Text) (row : Artifact) :
    Except ApiError (Option (Artifact × GxArtifactEnvelope)) := do
  let suite ← services.coerceSuiteEntity row
  if passesTags matchingRuleIds suite then
    assertRunnable suite
    return some (row, suite)
  else return none

/-- The scope of a command, as a selector of its run plan. -/
def commandScope (command : SeedCommand) : ScopeSelector where
  assignmentScope := none
  dataObjectId := command.scope.dataObjectId
  dataObjectVersionId := command.scope.dataObjectVersionId
  datasetId := command.scope.datasetId
  dataProductId := command.scope.dataProductId
  tagIds := command.tagIds
  workspaceId := none
  extra := []

/-- The seed of several suites. It has no contract of its own. -/
def groupedSeed (command : SeedCommand) (selected : List (Artifact × GxArtifactEnvelope))
    (groupedPlan : Dict) : Seed where
  scopeSelector := commandScope command
  gxSuiteSelection := ⟨"grouped_scope", commandScope command,
    selected.map fun item => ⟨item.2.suiteId, item.2.suiteVersion,
      refEngineType services item.1 item.2⟩, some groupedPlan⟩
  suiteId := none
  suiteVersion := none
  suiteSnapshot := .grouped (some groupedPlan) (selected.map fun item => snapshotSuite item.2)
  executionContractSnapshot := none

def resolveGroupedScopeSeed (command : SeedCommand) : Except ApiError Seed :=
  if scopeIsValid command.scope command.tagIds then do
    let rows := services.listArtifacts command.scope
    let selected ← rows.mapM
      (selectRow services (ruleIdsForTags services.listRuleRecords command.tagIds))
    let selected := selected.filterMap id
    if selected.isEmpty then
      .error (.http 404 (errorDetail "gx_suites_not_found"
        "No active GX suites found for the requested grouped scope" []))
    else
      let groupedPlan ← services.buildPlan (selected.map Prod.fst)
      return groupedSeed services command selected groupedPlan
  else .error (.http 400 [entry "message" (.text "Invalid GX retrieval query")])

def resolveSeed (command : SeedCommand) : Except ApiError Seed :=
  if command.planningMode = "grouped_scope" then resolveGroupedScopeSeed services command
  else resolveSingleSuiteSeed services command.suiteId command.suiteVersion command.tagIds

end Resolver

end RunPlans

end DqMadeEasy
