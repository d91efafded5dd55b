import DqMadeEasy.RunPlans.Seeds

/-!
# From a seed to a validated version

The version that is created of a seed passes validation exactly when it is a version of one suite
whose contract the validator accepts, and the suite has no field that a validation artifact forbids.
A grouped seed has no contract, and the validator asks every version for one.
-/

namespace DqMadeEasy

namespace RunPlans

open Artifacts Dispatch Planner Runs Worker

/-! ### Stored snapshots -/

/-- The dump of an evidence policy without `None`. -/
def dumpEvidence (policy : EvidencePolicy) : Dict :=
  withoutNone ([entry "failedRows" (optDict (fun rows : FailedRowsPolicy => withoutNone rows.modelDump)
      policy.failedRows),
    entry "emitCompiledArtifact" (optBool policy.emitCompiledArtifact),
    entry "emitGeneratedSql" (optBool policy.emitGeneratedSql)] ++ policy.extra)

/-- The dump of execution hints without `None`. -/
def dumpHints (hints : ExecutionHints) : Dict :=
  withoutNone [entry "recommendedEngine" (optText hints.recommendedEngine),
    entry "primaryKeyFields" (texts hints.primaryKeyFields),
    entry "businessKeyFields" (texts hints.businessKeyFields),
    entry "evidence" (optDict dumpEvidence hints.evidence),
    entry "incrementalSelection"
      (optDict (fun selection => withoutNone (dumpIncrementalSelection selection))
        hints.incrementalSelection)]

/-- `build_gx_run_plan_single_suite_snapshot_entity`, of the dump of an envelope. -/
def storedSnapshot (envelope : GxArtifactEnvelope) : SingleSuiteSnapshot where
  suiteId := some envelope.suiteId
  suiteVersion := some envelope.suiteVersion
  artifactVersion := some envelope.artifactVersion
  assignmentScope := withoutNone envelope.assignmentScope.modelDump
  resolvedExecutionScope := envelope.resolvedExecutionScope.modelDump
  gxSuite := envelope.gxSuite
  compiledFrom := envelope.compiledFrom.modelDump
  executionHints := dumpHints envelope.executionHints
  executionContract := envelope.executionContract
  savedBy := envelope.savedBy
  sourcePipeline := envelope.sourcePipeline

/-- The snapshot entity that is built of a dictionary without the keys of a suite. -/
def emptySnapshot : SingleSuiteSnapshot :=
  ⟨none, none, none, [], [], [], [], [], none, none, none⟩

/-! ### Created versions -/

/-- The version of a created plan, as a GX run plan has it. -/
structure CreatedVersion where
  gxSuiteSelection : SelectionPayload
  suiteId : Option Text
  suiteVersion : Option ℕ
  suiteSnapshot : SnapshotPayload GxArtifactEnvelope
  executionContractSnapshot : Option GxExecutionContract
  scheduledAt : Text

/-- The dump of an assignment scope without `None`. -/
def PlanAssignmentScope.modelDump (scope : PlanAssignmentScope) : Dict :=
  withoutNone ([entry "dataObjectId" (optText scope.dataObjectId),
    entry "datasetId" (optText scope.datasetId), entry "dataProductId" (optText scope.dataProductId),
    entry "tagIds" (texts scope.tagIds)] ++ scope.extra)

/-- The dump of a scope selector without `None`. -/
def ScopeSelector.modelDump (selector : ScopeSelector) : Dict :=
  withoutNone ([entry "assignmentScope"
      (optDict PlanAssignmentScope.modelDump selector.assignmentScope),
    entry "dataObjectId" (optText selector.dataObjectId),
    entry "dataObjectVersionId" (optText selector.dataObjectVersionId),
    entry "datasetId" (optText selector.datasetId),
    entry "dataProductId" (optText selector.dataProductId),
    entry "tagIds" (texts selector.tagIds),
    entry "workspaceId" (optText selector.workspaceId)] ++ selector.extra)

/-- A reference of a seed, as a suite reference or as an artifact reference. -/
def SuiteRef.payload (ref : SuiteRef) : RefPayload where
  id := some (.scalar (.str ref.suiteId))
  version := some (.int ref.suiteVersion)
  engineType := some (.scalar (.str ref.engineType))
  rest := []

/-- The selection of a seed as the repository stores it. -/
def SeedSelection.payload (selection : SeedSelection) : SelectionPayload where
  refs := .list (selection.suiteRefs.map fun ref => .mapping ref.payload)
  foreign := none
  rest := withoutNone [entry "selectionMode" (.text selection.selectionMode),
    entry "scopeSelector" (.dict selection.scopeSelector.modelDump),
    entry "groupedExecutionPlan" (optDict id selection.groupedExecutionPlan)]

section Creation

variable [PyDatetime]

/-- The version of `create_gx_run_plan`. Its snapshot is translated for the repository, stored as a
GX snapshot, returned as a validation snapshot and read as a GX snapshot again. -/
def createGxRunPlan (seed : Seed) (scheduledAt : Datetime) : Except PyError CreatedVersion := do
  let artifactSnapshot ← seed.suiteSnapshot.toValidation
  let returned ← artifactSnapshot.toGx.toValidation
  return {
    gxSuiteSelection := seed.gxSuiteSelection.payload.translate.translate
    suiteId := seed.suiteId
    suiteVersion := seed.suiteVersion
    suiteSnapshot := returned.toGx
    executionContractSnapshot := seed.executionContractSnapshot.map GxExecutionContract.withoutNone
    scheduledAt := PyDatetime.isoformat scheduledAt }

end Creation

/-- `str(value) if value is not None else None`. -/
def readText [PyRuntime] [PyNumerals] (value : Json) : Option Text :=
  if value.isNone then none else some value.str

def SnapshotPayload.groupedSnapshot : SnapshotPayload GxArtifactEnvelope → GroupedSuiteSnapshot
  | .single _ => ⟨none, []⟩
  | .grouped groupedExecutionPlan envelopes => ⟨groupedExecutionPlan, envelopes.map storedSnapshot⟩

def SnapshotPayload.singleSnapshot : SnapshotPayload GxArtifactEnvelope → SingleSuiteSnapshot
  | .single envelope => storedSnapshot envelope
  | .grouped _ _ => emptySnapshot

section Validation

variable [PyRuntime] [PyNumerals]

/-- `build_gx_run_plan_version_validation_snapshot_entity`, of a created version. -/
def CreatedVersion.validationSnapshot (version : CreatedVersion) : VersionValidationSnapshot :=
  let selectionMode := readText (version.gxSuiteSelection.rest.get "selectionMode")
  let groupedSnapshot := version.suiteSnapshot.groupedSnapshot
  { scheduledAt := some version.scheduledAt
    selectionMode := selectionMode
    executionContractSnapshot := version.executionContractSnapshot
    suiteSnapshot := some (if stripped selectionMode = "grouped_scope"
      then .grouped groupedSnapshot else .single version.suiteSnapshot.singleSnapshot)
    groupedExecutionPlan := groupedSnapshot.groupedExecutionPlan
    groupedSuiteEnvelopes := groupedSnapshot.suiteEnvelopes }

/-- The snapshots of a seed have the fields that the validator asks for. -/
def Seed.Structured (seed : Seed) : Prop :=
  ∀ suite ∈ seed.suiteSnapshot.envelopes,
    singleSuiteSnapshotStructureErrors (resolvedSnapshot suite) = .ok []

def GoesLive [PyDatetime] (seed : Seed) (scheduledAt : Datetime) : Prop :=
  ∃ version, createGxRunPlan seed scheduledAt = .ok version ∧
    validateGxRunPlanVersionSnapshot version.validationSnapshot = .ok []

end Validation

/-! ### Snapshots of one envelope -/

/-- A snapshot entity has the fields of an envelope that the validator reads. -/
structure ReadsEnvelope (snapshot : SingleSuiteSnapshot) (envelope : GxArtifactEnvelope) : Prop where
  suiteId : snapshot.suiteId = some envelope.suiteId
  suiteVersion : snapshot.suiteVersion = some (envelope.suiteVersion : ℤ)
  artifactVersion : snapshot.artifactVersion = some envelope.artifactVersion
  dataObjectId : snapshot.assignmentScope.get "dataObjectId" =
    optText envelope.assignmentScope.dataObjectId
  datasetId : snapshot.assignmentScope.get "datasetId" = optText envelope.assignmentScope.datasetId
  dataProductId : snapshot.assignmentScope.get "dataProductId" =
    optText envelope.assignmentScope.dataProductId
  targets : snapshot.resolvedExecutionScope.find? "dataObjectVersionIds" =
    some (texts envelope.resolvedExecutionScope.dataObjectVersionIds)
  compilerVersion : snapshot.compiledFrom.get "compilerVersion" =
    .scalar (.str envelope.compiledFrom.compilerVersion)
  generatedAt : snapshot.compiledFrom.get "generatedAt" =
    .scalar (.str envelope.compiledFrom.generatedAt)
  recommendedEngine : snapshot.executionHints.get "recommendedEngine" =
    optText envelope.executionHints.recommendedEngine
  gxSuite : snapshot.gxSuite = envelope.gxSuite
  executionContract : snapshot.executionContract = envelope.executionContract

theorem readsEnvelope_resolvedSnapshot (suite : GxArtifactEnvelope) :
    ReadsEnvelope (resolvedSnapshot suite) suite where
  suiteId := rfl
  suiteVersion := rfl
  artifactVersion := rfl
  dataObjectId := rfl
  datasetId := rfl
  dataProductId := rfl
  targets := rfl
  compilerVersion := rfl
  generatedAt := rfl
  recommendedEngine := rfl
  gxSuite := rfl
  executionContract := rfl

/-- What the scope's dump without `None` has under its keys. -/
theorem get_assignmentScope (scope : AssignmentScope) :
    (withoutNone scope.modelDump).get "dataObjectId" = optText scope.dataObjectId ∧
      (withoutNone scope.modelDump).get "datasetId" = optText scope.datasetId ∧
      (withoutNone scope.modelDump).get "dataProductId" = optText scope.dataProductId := by
  obtain ⟨dataObjectId, datasetId, dataProductId, tagIds⟩ := scope
  cases dataObjectId <;> cases datasetId <;> cases dataProductId <;> exact ⟨rfl, rfl, rfl⟩

theorem get_recommendedEngine (hints : ExecutionHints) :
    (dumpHints hints).get "recommendedEngine" = optText hints.recommendedEngine := by
  obtain ⟨recommendedEngine, primaryKeyFields, businessKeyFields, evidence, selection⟩ := hints
  cases recommendedEngine <;> cases evidence <;> cases selection <;> rfl

theorem readsEnvelope_storedSnapshot (envelope : GxArtifactEnvelope) :
    ReadsEnvelope (storedSnapshot envelope) envelope where
  suiteId := rfl
  suiteVersion := rfl
  artifactVersion := rfl
  dataObjectId := (get_assignmentScope envelope.assignmentScope).1
  datasetId := (get_assignmentScope envelope.assignmentScope).2.1
  dataProductId := (get_assignmentScope envelope.assignmentScope).2.2
  targets := rfl
  compilerVersion := rfl
  generatedAt := rfl
  recommendedEngine := get_recommendedEngine envelope.executionHints
  gxSuite := rfl
  executionContract := rfl

/-- The fields that the validator asks an envelope for. -/
structure HasFields (envelope : GxArtifactEnvelope) : Prop where
  suiteId : Text.strip envelope.suiteId ≠ []
  artifactVersion : Text.strip envelope.artifactVersion ≠ []
  assignmentScope : stripped envelope.assignmentScope.dataObjectId ≠ [] ∨
    stripped envelope.assignmentScope.datasetId ≠ [] ∨
    stripped envelope.assignmentScope.dataProductId ≠ []
  targets : presentIds envelope.resolvedExecutionScope.dataObjectVersionIds ≠ []
  compilerVersion : Text.strip envelope.compiledFrom.compilerVersion ≠ []
  generatedAt : Text.strip envelope.compiledFrom.generatedAt ≠ []
  recommendedEngine : stripped envelope.executionHints.recommendedEngine ≠ []

section Reading

variable [PyRuntime] [PyNumerals] {snapshot : SingleSuiteSnapshot} {envelope : GxArtifactEnvelope}

@[simp] theorem strippedText_optText (t : Option Text) : (optText t).strippedText = stripped t := by
  cases t with
  | none => rfl
  | some t => exact Json.strippedText_str t

theorem any_strippedText_texts (ids : List Text) :
    (ids.map fun t => Json.scalar (.str t)).any (fun value => value.strippedText ≠ []) = true ↔
      presentIds ids ≠ [] := by
  simp [presentIds, List.filter_eq_nil_iff]

/-- A snapshot of an envelope has the fields that the validator asks for when the envelope has
them. -/
theorem ReadsEnvelope.structureErrors_eq_nil (h : ReadsEnvelope snapshot envelope) :
    singleSuiteSnapshotStructureErrors snapshot = .ok [] ↔ HasFields envelope := by
  have hversion : (1 : ℤ) ≤ envelope.suiteVersion := by
    exact_mod_cast envelope.suiteVersion_pos
  rw [singleSuiteSnapshotStructureErrors, h.targets, Option.getD_some, texts, iterate, ok_bind,
    h.suiteId, h.suiteVersion, h.artifactVersion, h.compilerVersion, h.generatedAt,
    h.recommendedEngine, show ∀ violations : List Violation,
      (pure violations : Except PyError (List Violation)) = .ok violations from fun _ => rfl,
    Except.ok.injEq]
  simp only [List.append_eq_nil_iff, required_eq_nil, any_strippedText_texts, List.any_cons,
    List.any_nil, h.dataObjectId, h.datasetId, h.dataProductId, strippedText_optText,
    Json.strippedText_str, Option.any_some, hversion, decide_eq_true_eq, Bool.or_eq_true,
    Bool.or_false]
  constructor
  · rintro ⟨⟨⟨⟨⟨⟨⟨hid, -⟩, hartifact⟩, hscope⟩, htargets⟩, hcompiler⟩, hgenerated⟩, hengine⟩
    exact ⟨hid, hartifact, hscope, htargets, hcompiler, hgenerated, hengine⟩
  · intro hf
    exact ⟨⟨⟨⟨⟨⟨⟨hf.suiteId, trivial⟩, hf.artifactVersion⟩, hf.assignmentScope⟩, hf.targets⟩,
      hf.compilerVersion⟩, hf.generatedAt⟩, hf.recommendedEngine⟩

theorem resolvedTargetIds_texts (ids : List Text) :
    resolvedTargetIds (texts ids) = .ok (presentIds ids) := by
  have hstripped : strippedTexts (ids.map fun t => Json.scalar (.str t)) = presentIds ids := by
    rw [strippedTexts, presentIds, List.map_map]
    rfl
  cases ids with
  | nil => rfl
  | cons id ids =>
    exact congrArg Except.ok hstripped

/-- An envelope is runnable when it has a contract, a target and executable expectations. -/
structure Runnable (envelope : GxArtifactEnvelope) : Prop where
  executionContract : envelope.executionContract.isSome
  targets : presentIds envelope.resolvedExecutionScope.dataObjectVersionIds ≠ []
  expectations : ∃ expectations, suiteExpectations envelope.gxSuite = .ok expectations ∧
    expectations ≠ [] ∧ expectations.zipIdx.findSome? (expectationError envelope.suiteId) = none

theorem assertGxSuiteRunnable_eq_none_of_eq {suite : SuiteAttributes}
    (hid : suite.suiteId = envelope.suiteId)
    (hcontract : suite.executionContract = envelope.executionContract)
    (htargets : suite.targets = texts envelope.resolvedExecutionScope.dataObjectVersionIds)
    (hgxSuite : suite.gxSuite = envelope.gxSuite) :
    assertGxSuiteRunnable suite = .ok none ↔ Runnable envelope := by
  rw [assertGxSuiteRunnable_eq_none, hid, hcontract, htargets, hgxSuite, resolvedTargetIds_texts]
  constructor
  · rintro ⟨hsome, ⟨_, ⟨⟩, hne⟩, hexpectations⟩
    exact ⟨hsome, hne, hexpectations⟩
  · intro h
    exact ⟨h.executionContract, ⟨_, rfl, h.targets⟩, h.expectations⟩

theorem ReadsEnvelope.runnable_iff (h : ReadsEnvelope snapshot envelope) :
    assertGxSuiteRunnable snapshot.attributes = .ok none ↔ Runnable envelope := by
  refine assertGxSuiteRunnable_eq_none_of_eq ?_ h.executionContract ?_ h.gxSuite
  · rw [SingleSuiteSnapshot.attributes, h.suiteId, Option.getD_some]
  · rw [SingleSuiteSnapshot.attributes, h.targets, Option.getD_some]

theorem assertRunnable_ok : assertRunnable envelope = .ok () ↔ Runnable envelope := by
  have h : assertGxSuiteRunnable (envelopeAttributes envelope) = .ok none ↔ Runnable envelope :=
    assertGxSuiteRunnable_eq_none_of_eq rfl rfl rfl rfl
  rw [← h, assertRunnable]
  split <;> simp_all

end Reading

/-! ### What creation keeps -/

/-- A field that is not blank is not replaced. -/
theorem textOrDefault_of_strip_ne_nil {value : Text} {fallback : String} (h : Text.strip value ≠ []) :
    textOrDefault value fallback = value := by
  rw [textOrDefault, if_neg]
  rintro rfl
  exact h rfl

/-- Building an envelope of its dump keeps the fields that the validator asks for. -/
theorem HasFields.rebuilt {envelope : GxArtifactEnvelope} (h : HasFields envelope) :
    HasFields envelope.withoutNone.rebuilt where
  suiteId := h.suiteId
  artifactVersion := by
    show Text.strip (textOrDefault envelope.artifactVersion "v1") ≠ []
    rw [textOrDefault_of_strip_ne_nil h.artifactVersion]
    exact h.artifactVersion
  assignmentScope := h.assignmentScope
  targets := by
    show presentIds (presentIds envelope.resolvedExecutionScope.dataObjectVersionIds) ≠ []
    rw [presentIds_presentIds]
    exact h.targets
  compilerVersion := by
    show Text.strip (textOrDefault envelope.compiledFrom.compilerVersion "unknown") ≠ []
    rw [textOrDefault_of_strip_ne_nil h.compilerVersion]
    exact h.compilerVersion
  generatedAt := h.generatedAt
  recommendedEngine := h.recommendedEngine

theorem Runnable.rebuilt {envelope : GxArtifactEnvelope} (h : Runnable envelope) :
    Runnable envelope.withoutNone.rebuilt where
  executionContract := by
    show (envelope.executionContract.map GxExecutionContract.withoutNone).isSome
    rw [Option.isSome_map]
    exact h.executionContract
  targets := by
    show presentIds (presentIds envelope.resolvedExecutionScope.dataObjectVersionIds) ≠ []
    rw [presentIds_presentIds]
    exact h.targets
  expectations := h.expectations

theorem contractComplete_withoutNone {contract : GxExecutionContract} :
    ContractComplete contract.withoutNone ↔ ContractComplete contract := by
  have htrace : contract.withoutNone.traceability =
      contract.traceability.map Traceability.withoutNone := rfl
  have hmaterialization : contract.withoutNone.sourceMaterialization =
      contract.sourceMaterialization.map SourceMaterialization.withoutNone := rfl
  constructor
  · intro h
    obtain ⟨t, ht, hfields⟩ := h.traceability
    rw [htrace] at ht
    obtain ⟨t, htrace, rfl⟩ := Option.map_eq_some_iff.mp ht
    have hsingle := h.singleObject
    have hjoin := h.joinPair
    rw [hmaterialization, Option.isNone_map] at hsingle
    rw [hmaterialization, Option.isSome_map] at hjoin
    exact ⟨h.engineTarget, h.executionShape, ⟨t, htrace, hfields⟩, hsingle, hjoin⟩
  · intro h
    obtain ⟨t, ht, hfields⟩ := h.traceability
    refine ⟨h.engineTarget, h.executionShape, ⟨t.withoutNone, ?_, hfields⟩, ?_, ?_⟩
    · rw [htrace, ht]
      rfl
    · rw [hmaterialization, Option.isNone_map]
      exact h.singleObject
    · rw [hmaterialization, Option.isSome_map]
      exact h.joinPair

/-! ### Created versions -/

theorem toValidation_single {suite : GxArtifactEnvelope}
    {artifactSnapshot : SnapshotPayload ValidationArtifactEnvelope}
    (h : SnapshotPayload.toValidation (.single suite) = .ok artifactSnapshot) :
    suite.Declared ∧ artifactSnapshot.toGx = .single suite.withoutNone.rebuilt := by
  obtain ⟨artifact, hartifact, rfl⟩ := ok_of_map h
  refine ⟨?_, congrArg SnapshotPayload.single (normalizes_envelope suite artifact hartifact)⟩
  rw [← GxArtifactEnvelope.declared_rebuilt]
  exact exists_buildValidationArtifactEnvelope_iff.mp ⟨artifact, hartifact⟩

theorem exists_toValidation_single {suite : GxArtifactEnvelope} (h : suite.Declared) :
    ∃ artifactSnapshot, SnapshotPayload.toValidation (.single suite) = .ok artifactSnapshot := by
  rw [← GxArtifactEnvelope.declared_rebuilt] at h
  obtain ⟨artifact, hartifact⟩ := exists_buildValidationArtifactEnvelope_iff.mpr h
  refine ⟨.single artifact, ?_⟩
  rw [SnapshotPayload.toValidation, buildValidationArtifactEnvelopeFromGxArtifact, hartifact]
  rfl

theorem rebuilt_withoutNone_rebuilt (suite : GxArtifactEnvelope) :
    suite.withoutNone.rebuilt.withoutNone.rebuilt = suite.withoutNone.rebuilt := by
  rw [GxArtifactEnvelope.withoutNone_rebuilt, GxArtifactEnvelope.withoutNone_withoutNone,
    GxArtifactEnvelope.rebuilt_rebuilt]

section Created

variable [PyDatetime] {seed : Seed} {scheduledAt : Datetime} {suite : GxArtifactEnvelope}
  {version : CreatedVersion}

/-- The version of a suite, and when it is created. -/
theorem createGxRunPlan_single (hsnapshot : seed.suiteSnapshot = .single suite) :
    createGxRunPlan seed scheduledAt = .ok version ↔
      suite.Declared ∧ version = {
        gxSuiteSelection := seed.gxSuiteSelection.payload.translate.translate
        suiteId := seed.suiteId
        suiteVersion := seed.suiteVersion
        suiteSnapshot := .single suite.withoutNone.rebuilt
        executionContractSnapshot :=
          seed.executionContractSnapshot.map GxExecutionContract.withoutNone
        scheduledAt := PyDatetime.isoformat scheduledAt } := by
  rw [createGxRunPlan, hsnapshot]
  constructor
  · intro h
    obtain ⟨artifactSnapshot, hartifact, h⟩ := ok_of_bind h
    obtain ⟨returned, hreturned, h⟩ := ok_of_bind h
    obtain ⟨hdeclared, hgx⟩ := toValidation_single hartifact
    rw [hgx] at hreturned
    have hback := (toValidation_single hreturned).2
    rw [rebuilt_withoutNone_rebuilt] at hback
    cases h
    rw [hback]
    exact ⟨hdeclared, rfl⟩
  · rintro ⟨hdeclared, rfl⟩
    obtain ⟨artifactSnapshot, hartifact⟩ := exists_toValidation_single hdeclared
    have hgx := (toValidation_single hartifact).2
    have hstored : suite.withoutNone.rebuilt.Declared :=
      GxArtifactEnvelope.declared_rebuilt.mpr hdeclared.withoutNone
    obtain ⟨returned, hreturned⟩ := exists_toValidation_single hstored
    have hback := (toValidation_single hreturned).2
    rw [rebuilt_withoutNone_rebuilt] at hback
    rw [hartifact, ok_bind, hgx, hreturned, ok_bind, hback]
    rfl

theorem executionContractSnapshot_of_createGxRunPlan
    (h : createGxRunPlan seed scheduledAt = .ok version) :
    version.executionContractSnapshot =
      seed.executionContractSnapshot.map GxExecutionContract.withoutNone := by
  obtain ⟨_, _, h⟩ := ok_of_bind h
  obtain ⟨_, _, h⟩ := ok_of_bind h
  cases h
  rfl

end Created

section Live

variable [PyRuntime] [PyNumerals] [PyDatetime] {seed : Seed} {scheduledAt : Datetime}
  {suite : GxArtifactEnvelope}

theorem not_goesLive_of_no_contract (h : seed.executionContractSnapshot = none) :
    ¬ GoesLive seed scheduledAt := by
  rintro ⟨version, hcreate, hvalid⟩
  have hcontract := executionContractSnapshot_of_createGxRunPlan hcreate
  rw [h] at hcontract
  obtain ⟨contract, hsome, _⟩ := (validateGxRunPlanVersionSnapshot_eq_nil.mp hvalid).2.1
  rw [show version.validationSnapshot.executionContractSnapshot =
    version.executionContractSnapshot from rfl, hcontract] at hsome
  cases hsome

omit [PyDatetime] in
theorem selectionMode_singleSuite (scopeSelector : ScopeSelector) (suiteRefs : List SuiteRef)
    (groupedExecutionPlan : Option Dict) :
    readText ((SeedSelection.mk "single_suite" scopeSelector suiteRefs
      groupedExecutionPlan).payload.translate.translate.rest.get "selectionMode") =
        some "single_suite".toList := by
  cases groupedExecutionPlan <;> rfl

omit [PyDatetime] in
theorem suiteAccepted_storedSnapshot (hfields : HasFields suite) (hrunnable : Runnable suite) :
    SuiteAccepted (storedSnapshot suite.withoutNone.rebuilt) where
  fields := (readsEnvelope_storedSnapshot _).structureErrors_eq_nil.mpr hfields.rebuilt
  runnable := (readsEnvelope_storedSnapshot _).runnable_iff.mpr hrunnable.rebuilt

/-- A created version of an accepted suite is validated when its contract is complete. -/
theorem validate_single {version : CreatedVersion} {contract : Option GxExecutionContract}
    (hmode : readText (version.gxSuiteSelection.rest.get "selectionMode") =
      some "single_suite".toList)
    (hsnapshot : version.suiteSnapshot = .single suite.withoutNone.rebuilt)
    (hcontract : version.executionContractSnapshot = contract.map GxExecutionContract.withoutNone)
    (hscheduled : version.scheduledAt = PyDatetime.isoformat scheduledAt)
    (hfields : HasFields suite) (hrunnable : Runnable suite) :
    validateGxRunPlanVersionSnapshot version.validationSnapshot = .ok [] ↔
      ∃ c ∈ contract, ContractComplete c := by
  have hgrouped : stripped (some "single_suite") ≠ "grouped_scope" := by decide
  have hschedule : stripped version.validationSnapshot.scheduledAt ≠ [] := by
    show Text.strip version.scheduledAt ≠ []
    rw [hscheduled, PyDatetime.strip_isoformat]
    exact PyDatetime.isoformat_ne_nil _
  have hstripped : stripped version.validationSnapshot.selectionMode ≠ "grouped_scope" := by
    show stripped (readText _) ≠ _
    rw [hmode]
    exact hgrouped
  have hsuites : modeDiagnostics version.validationSnapshot = .ok [] := by
    rw [modeDiagnostics, if_neg hstripped, singleDiagnostics_eq_nil]
    refine ⟨storedSnapshot suite.withoutNone.rebuilt, ?_,
      suiteAccepted_storedSnapshot hfields hrunnable⟩
    have hsingle : version.suiteSnapshot.singleSnapshot =
        storedSnapshot suite.withoutNone.rebuilt := by
      rw [hsnapshot]
      rfl
    show some (ite _ _ _) = _
    rw [if_neg (show ¬ stripped (readText _) = _ from hstripped), hsingle]
  rw [validateGxRunPlanVersionSnapshot_eq_nil, and_iff_right hschedule, and_iff_left hsuites,
    show version.validationSnapshot.executionContractSnapshot =
      version.executionContractSnapshot from rfl, hcontract]
  constructor
  · rintro ⟨c, hc, hcomplete⟩
    obtain ⟨c, hmem, rfl⟩ := Option.map_eq_some_iff.mp hc
    exact ⟨c, hmem, contractComplete_withoutNone.mp (hcomplete hstripped)⟩
  · rintro ⟨c, hmem, hcomplete⟩
    refine ⟨c.withoutNone, ?_, fun _ => contractComplete_withoutNone.mpr hcomplete⟩
    rw [Option.mem_def.mp hmem]
    rfl

/-- A runnable suite with the fields that the validator asks for goes live exactly when its contract
is complete and it has no field that a validation artifact forbids. -/
theorem goesLive_single {Artifact : Type} {services : SeedServices Artifact} {row : Artifact}
    {tagIds : List Text} (hfields : HasFields suite) (hrunnable : Runnable suite) :
    GoesLive (singleSeed services row suite tagIds) scheduledAt ↔
      suite.Declared ∧ ∃ contract ∈ suite.executionContract, ContractComplete contract := by
  have hsnapshotFields : HasFields (snapshotSuite suite) :=
    ⟨hfields.suiteId, hfields.artifactVersion, hfields.assignmentScope, hfields.targets,
      hfields.compilerVersion, hfields.generatedAt, hfields.recommendedEngine⟩
  have hsnapshotRunnable : Runnable (snapshotSuite suite) :=
    ⟨hrunnable.executionContract, hrunnable.targets, hrunnable.expectations⟩
  have hsnapshot : (singleSeed services row suite tagIds).suiteSnapshot =
      .single (snapshotSuite suite) := rfl
  constructor
  · rintro ⟨version, hcreate, hvalid⟩
    obtain ⟨hdeclared, rfl⟩ := (createGxRunPlan_single hsnapshot).mp hcreate
    refine ⟨⟨hdeclared.evidence, hdeclared.sources⟩, ?_⟩
    exact (validate_single (selectionMode_singleSuite _ _ _) rfl rfl rfl hsnapshotFields
      hsnapshotRunnable).mp hvalid
  · rintro ⟨hdeclared, hcontract⟩
    refine ⟨_, (createGxRunPlan_single hsnapshot).mpr
      ⟨⟨hdeclared.evidence, hdeclared.sources⟩, rfl⟩, ?_⟩
    exact (validate_single (selectionMode_singleSuite _ _ _) rfl rfl rfl hsnapshotFields
      hsnapshotRunnable).mpr hcontract

/-! ### Seeds that go live -/

variable {Artifact : Type} {services : SeedServices Artifact} {command : SeedCommand}

omit [PyRuntime] [PyNumerals] [PyDatetime] in
theorem coerceSelectedSuite_ok {suiteId : Text} {suiteVersion : Option ℤ} {row : Artifact} :
    coerceSelectedSuite services suiteId suiteVersion row = .ok suite ↔
      services.coerceSuiteEntity row = .ok suite := by
  rw [coerceSelectedSuite]
  cases services.coerceSuiteEntity row with
  | ok found => exact Iff.rfl
  | error exc => cases exc <;> exact iff_of_false (fun h => by cases h) fun h => by cases h

omit [PyDatetime] in
/-- A seed of one suite is that of the artifact which the registry has under the command's id. -/
theorem exists_of_resolveSingleSuiteSeed {suiteId : Option Text} {suiteVersion : Option ℤ}
    {tagIds : List Text} (h : resolveSingleSuiteSeed services suiteId suiteVersion tagIds = .ok seed) :
    ∃ row suite, services.getArtifactById (stripped suiteId) suiteVersion = some row ∧
      services.coerceSuiteEntity row = .ok suite ∧ Runnable suite ∧
      seed = singleSeed services row suite tagIds := by
  rw [resolveSingleSuiteSeed] at h
  split at h
  · cases h
  · split at h
    · cases h
    · rename_i row hrow
      obtain ⟨suite, hsuite, h⟩ := ok_of_bind h
      obtain ⟨_, hrunnable, h⟩ := ok_of_bind h
      split at h
      · exact ⟨row, suite, hrow, coerceSelectedSuite_ok.mp hsuite, assertRunnable_ok.mp hrunnable,
          (Except.ok.inj h).symm⟩
      · cases h

omit [PyDatetime] in
theorem no_contract_of_resolveGroupedScopeSeed
    (h : resolveGroupedScopeSeed services command = .ok seed) :
    seed.executionContractSnapshot = none := by
  rw [resolveGroupedScopeSeed] at h
  split at h
  · obtain ⟨selected, _, h⟩ := ok_of_bind h
    dsimp only at h
    split at h
    · cases h
    · obtain ⟨groupedPlan, _, h⟩ := ok_of_bind h
      cases h
      rfl
  · cases h

/-- The version of a resolved seed whose suites have the fields of a snapshot is created and passes
validation exactly when the command is not for a grouped scope, and the suite that it selects has a
complete contract and no field that a validation artifact forbids. -/
theorem goesLive_iff {services : SeedServices Artifact} {command : SeedCommand} {seed : Seed}
    (hseed : resolveSeed services command = .ok seed) (hstructured : seed.Structured)
    (scheduledAt : Datetime) :
    GoesLive seed scheduledAt ↔
      command.planningMode ≠ "grouped_scope" ∧
        ∃ row suite, services.getArtifactById (stripped command.suiteId) command.suiteVersion =
            some row ∧ services.coerceSuiteEntity row = .ok suite ∧ suite.Declared ∧
          ∃ contract ∈ suite.executionContract, ContractComplete contract := by
  rw [resolveSeed] at hseed
  split at hseed
  · rename_i hmode
    exact iff_of_false (not_goesLive_of_no_contract (no_contract_of_resolveGroupedScopeSeed hseed))
      fun h => h.1 hmode
  · rename_i hmode
    obtain ⟨row, suite, hrow, hsuite, hrunnable, rfl⟩ := exists_of_resolveSingleSuiteSeed hseed
    have hfields : HasFields suite := by
      have hsnapshot := hstructured (snapshotSuite suite) List.mem_cons_self
      have hread := (readsEnvelope_resolvedSnapshot _).structureErrors_eq_nil.mp hsnapshot
      exact ⟨hread.suiteId, hread.artifactVersion, hread.assignmentScope, hread.targets,
        hread.compilerVersion, hread.generatedAt, hread.recommendedEngine⟩
    rw [goesLive_single hfields hrunnable, and_iff_right hmode]
    constructor
    · rintro ⟨hdeclared, hcontract⟩
      exact ⟨row, suite, hrow, hsuite, hdeclared, hcontract⟩
    · rintro ⟨row', suite', hrow', hsuite', hdeclared, hcontract⟩
      rw [hrow] at hrow'
      cases hrow'
      rw [hsuite] at hsuite'
      cases hsuite'
      exact ⟨hdeclared, hcontract⟩

end Live

/-! ### A registry with one suite -/

def liveExpectation : Dict :=
  [entry "expectation_type" (.text "expect_column_values_to_not_be_null"),
    entry "kwargs" (.dict [entry "column" (.text "id")])]

/-- A suite with all that a validator asks for. -/
def liveSuite : GxArtifactEnvelope where
  suiteId := "suite"
  suiteVersion := 1
  suiteVersion_pos := Nat.one_pos
  artifactVersion := "v1"
  assignmentScope := ⟨some "orders", none, none, []⟩
  resolvedExecutionScope := ⟨["orders-v1"]⟩
  gxSuite := [entry "expectations" (.list [.dict liveExpectation])]
  distinctKeys := by
    refine ⟨by decide, ⟨⟨by decide, trivial, ⟨by decide, trivial, trivial⟩, trivial⟩, trivial⟩,
      trivial⟩
  compiledFrom := ⟨["rule"], "1", "2026-01-01"⟩
  executionHints := ⟨some "gx", [], [], none, none⟩
  executionContract := some ⟨some "gx", some "local", some "single_object",
    some ⟨some "rule", some "rule-v1", some "suite", some 1, none, none, none,
      none, []⟩, none, none, none, none, none, none, [], [], none, none, []⟩
  savedBy := none
  sourcePipeline := none
  status := some "active"
  artifactHash := none

/-- The registry of that suite. -/
def liveServices : SeedServices GxArtifactEnvelope where
  getArtifactById _ _ := some liveSuite
  listArtifacts _ := [liveSuite]
  listRuleRecords := []
  coerceSuiteEntity row := .ok row
  artifactEngineType _ := some "gx"
  buildPlan _ := .ok [entry "suiteCount" (.int 1)]

/-- A command for the suite, or for the scope that it is in. -/
def liveCommand (planningMode : String) : SeedCommand where
  planningMode := planningMode.toList
  suiteId := some "suite"
  suiteVersion := none
  scope := { dataObjectId := some "orders" }
  tagIds := []

theorem liveSuite_runnable : Runnable liveSuite :=
  ⟨rfl, by decide, [⟨some "expect_column_values_to_not_be_null",
    some [entry "column" (.text "id")]⟩], rfl, List.cons_ne_nil _ _, by decide⟩

theorem liveSuite_structured [PyRuntime] [PyNumerals] :
    singleSuiteSnapshotStructureErrors (resolvedSnapshot (snapshotSuite liveSuite)) = .ok [] :=
  (readsEnvelope_resolvedSnapshot _).structureErrors_eq_nil.mpr
    ⟨by decide, by decide, .inl (by decide), by decide, by decide, by decide, by decide⟩

section Sample

local instance sampleRuntimeSeeds : PyRuntime := .ascii (fun _ => .nan) (fun _ => [])

local instance sampleNumeralsSeeds : PyNumerals := ⟨fun _ => none, fun _ => none, id⟩

local instance sampleDatetimeSeeds : PyDatetime := .epoch

/-- The suite goes live by itself. -/
theorem liveSuite_goesLive : ∃ seed,
    resolveSeed liveServices (liveCommand "single_suite") = .ok seed ∧ seed.Structured ∧
      GoesLive seed (Datetime.now 1) := by
  have hseed : resolveSeed liveServices (liveCommand "single_suite") =
      .ok (singleSeed liveServices liveSuite liveSuite []) := by
    rw [resolveSeed, if_neg (by decide), resolveSingleSuiteSeed, if_neg (by decide)]
    show (assertRunnable liveSuite >>= fun _ => _) = _
    rw [assertRunnable_ok.mpr liveSuite_runnable]
    rfl
  have hstructured : (singleSeed liveServices liveSuite liveSuite []).Structured := by
    intro suite hsuite
    rw [List.mem_singleton.mp hsuite]
    exact liveSuite_structured
  refine ⟨_, hseed, hstructured, (goesLive_iff hseed hstructured _).mpr ⟨by decide, liveSuite,
    liveSuite, rfl, rfl, ⟨by rintro _ ⟨⟩, by rintro _ ⟨⟩ _ ⟨⟩⟩, _, rfl, ?_⟩⟩
  · exact ⟨by decide, by decide, ⟨_, rfl, by decide, by decide, by decide, by decide⟩, fun _ => rfl,
      fun h => absurd h (by decide)⟩

/-- The same suite does not go live in its scope. -/
theorem liveSuite_not_goesLive_grouped : ∃ seed,
    resolveSeed liveServices (liveCommand "grouped_scope") = .ok seed ∧ seed.Structured ∧
      ¬ GoesLive seed (Datetime.now 1) := by
  have hseed : resolveSeed liveServices (liveCommand "grouped_scope") =
      .ok (groupedSeed liveServices (liveCommand "grouped_scope") [(liveSuite, liveSuite)]
        [entry "suiteCount" (.int 1)]) := by
    have hrow : selectRow liveServices (ruleIdsForTags [] []) liveSuite =
        .ok (some (liveSuite, liveSuite)) := by
      show (assertRunnable liveSuite >>= fun _ => _) = _
      rw [assertRunnable_ok.mpr liveSuite_runnable]
      rfl
    rw [resolveSeed, if_pos (by decide), resolveGroupedScopeSeed, if_pos (by decide)]
    show (List.mapM (selectRow liveServices (ruleIdsForTags [] [])) [liveSuite] >>= fun _ => _) = _
    rw [List.mapM_cons, hrow, List.mapM_nil]
    rfl
  refine ⟨_, hseed, ?_, not_goesLive_of_no_contract rfl⟩
  intro suite hsuite
  rw [List.mem_singleton.mp hsuite]
  exact liveSuite_structured

end Sample

end RunPlans

end DqMadeEasy
