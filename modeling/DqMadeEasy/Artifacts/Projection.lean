import DqMadeEasy.Artifacts.Listing
import DqMadeEasy.Planner.Plan

/-!
# GX envelopes as validation artifacts

A GX envelope becomes a validation artifact that carries the envelope's own dump as the payload of
its engine artifact. The way back builds an envelope of that payload, so that what a round trip does
to an envelope is what a builder does to its dump. The fields of a validation artifact beside the
payload forbid extra fields, where those of an envelope allow them.
-/

namespace DqMadeEasy

namespace Artifacts

open Planner Worker

/-! ### Dumps without `None`

`exclude_none` drops the fields that are `None`. A record has its declared fields as options, so that
only its extra fields tell the two dumps apart. -/

/-- The entries that are not `None`. -/
def withoutNone (extra : Dict) : Dict := extra.filter fun e => !e.2.isNone

/-- Every entry is `None`. -/
def Bare (extra : Dict) : Prop := ∀ e ∈ extra, e.2.isNone = true

/-- No entry is `None`. -/
def NoneFree (extra : Dict) : Prop := ∀ e ∈ extra, e.2.isNone = false

variable {extra : Dict} {envelope : GxArtifactEnvelope}

theorem withoutNone_eq_nil : withoutNone extra = [] ↔ Bare extra := by
  simp [withoutNone, Bare, List.filter_eq_nil_iff]

theorem withoutNone_eq_self : withoutNone extra = extra ↔ NoneFree extra := by
  simp [withoutNone, NoneFree, List.filter_eq_self]

def FailedRowsPolicy.withoutNone (policy : FailedRowsPolicy) : FailedRowsPolicy :=
  { policy with extra := Artifacts.withoutNone policy.extra }

def EvidencePolicy.withoutNone (policy : EvidencePolicy) : EvidencePolicy :=
  { policy with
    failedRows := policy.failedRows.map FailedRowsPolicy.withoutNone
    extra := Artifacts.withoutNone policy.extra }

def ExecutionHints.withoutNone (hints : ExecutionHints) : ExecutionHints :=
  { hints with evidence := hints.evidence.map EvidencePolicy.withoutNone }

def Traceability.withoutNone (traceability : Traceability) : Traceability :=
  { traceability with extra := Artifacts.withoutNone traceability.extra }

def SourceTarget.withoutNone (target : SourceTarget) : SourceTarget :=
  { target with extra := Artifacts.withoutNone target.extra }

def SourceMaterialization.withoutNone (materialization : SourceMaterialization) :
    SourceMaterialization :=
  { materialization with
    leftSource := materialization.leftSource.map SourceTarget.withoutNone
    rightSource := materialization.rightSource.map SourceTarget.withoutNone
    extra := Artifacts.withoutNone materialization.extra }

def GxExecutionContract.withoutNone (contract : GxExecutionContract) : GxExecutionContract :=
  { contract with
    traceability := contract.traceability.map Traceability.withoutNone
    sourceMaterialization := contract.sourceMaterialization.map SourceMaterialization.withoutNone
    extra := Artifacts.withoutNone contract.extra }

/-- `model_dump(exclude_none=True)`, as a record. -/
def GxArtifactEnvelope.withoutNone (envelope : GxArtifactEnvelope) : GxArtifactEnvelope :=
  { envelope with
    executionHints := envelope.executionHints.withoutNone
    executionContract := envelope.executionContract.map GxExecutionContract.withoutNone }

/-! ### Building an envelope of a dump -/

/-- `build_gx_artifact_assignment_scope_entity`, which does not read the tags. -/
def AssignmentScope.rebuilt (scope : AssignmentScope) : AssignmentScope := { scope with tagIds := [] }

/-- `build_gx_artifact_resolved_execution_scope_entity`. -/
def ResolvedExecutionScope.rebuilt (scope : ResolvedExecutionScope) : ResolvedExecutionScope :=
  { dataObjectVersionIds := presentIds scope.dataObjectVersionIds }

/-- `value or fallback`. -/
def textOrDefault (value : Text) (fallback : String) : Text :=
  if value = [] then fallback.toList else value

/-- `build_gx_artifact_compiled_from_entity`. -/
def CompiledFrom.rebuilt (compiledFrom : CompiledFrom) : CompiledFrom where
  ruleIds := presentIds compiledFrom.ruleIds
  compilerVersion := textOrDefault compiledFrom.compilerVersion "unknown"
  generatedAt := compiledFrom.generatedAt

/-- `build_gx_execution_incremental_selection_entity`. The mode is the `str` of the value under one
key or, where that is empty, of the missing one under the other. -/
def rebuiltIncrementalSelection (selection : IncrementalSelectionEntity) :
    IncrementalSelectionEntity where
  selectionMode := selection.selectionMode.map fun mode => textOrDefault mode "None"
  selectedDataObjectVersionIds := presentIds selection.selectedDataObjectVersionIds

/-- `build_gx_artifact_execution_hints_entity`. -/
def ExecutionHints.rebuilt (hints : ExecutionHints) : ExecutionHints where
  recommendedEngine := hints.recommendedEngine
  primaryKeyFields := presentIds hints.primaryKeyFields
  businessKeyFields := presentIds hints.businessKeyFields
  evidence := hints.evidence
  incrementalSelection := hints.incrementalSelection.map rebuiltIncrementalSelection

/-- `build_gx_artifact_envelope_entity`. -/
def GxArtifactEnvelope.rebuilt (envelope : GxArtifactEnvelope) : GxArtifactEnvelope :=
  { envelope with
    artifactVersion := textOrDefault envelope.artifactVersion "v1"
    assignmentScope := envelope.assignmentScope.rebuilt
    resolvedExecutionScope := envelope.resolvedExecutionScope.rebuilt
    compiledFrom := envelope.compiledFrom.rebuilt
    executionHints := envelope.executionHints.rebuilt }

/-! ### What a builder keeps -/

/-- The texts are stripped and none is empty. -/
def Present (values : List Text) : Prop := ∀ t ∈ values, Text.strip t = t ∧ t ≠ []

theorem presentIds_eq_self {values : List Text} : presentIds values = values ↔ Present values := by
  constructor
  · intro h t ht
    rw [← h] at ht
    exact present_of_mem_presentIds ht
  · intro h
    have hmap : values.map Text.strip = values :=
      (List.map_congr_left fun t ht => (h t ht).1).trans (List.map_id values)
    rw [presentIds, hmap, List.filter_eq_self]
    intro t ht
    exact decide_eq_true (h t ht).2

@[simp] theorem presentIds_presentIds (values : List Text) :
    presentIds (presentIds values) = presentIds values :=
  presentIds_eq_self.mpr fun _ ht => present_of_mem_presentIds ht

theorem textOrDefault_eq_self {value : Text} (fallback : String) (h : fallback.toList ≠ []) :
    textOrDefault value fallback = value ↔ value ≠ [] := by
  rw [textOrDefault]
  split
  · rename_i hvalue
    simp [hvalue, h]
  · rename_i hvalue
    exact iff_of_true rfl hvalue

theorem textOrDefault_textOrDefault (value : Text) (fallback : String) (h : fallback.toList ≠ []) :
    textOrDefault (textOrDefault value fallback) fallback = textOrDefault value fallback := by
  rw [textOrDefault_eq_self fallback h, textOrDefault]
  split
  · exact h
  · assumption

theorem rebuiltIncrementalSelection_rebuilt (selection : IncrementalSelectionEntity) :
    rebuiltIncrementalSelection (rebuiltIncrementalSelection selection) =
      rebuiltIncrementalSelection selection := by
  cases selection with
  | mk selectionMode ids =>
    cases selectionMode with
    | none => simp [rebuiltIncrementalSelection]
    | some mode =>
      simp [rebuiltIncrementalSelection,
        textOrDefault_textOrDefault mode "None" (by decide)]

theorem ExecutionHints.rebuilt_rebuilt (hints : ExecutionHints) :
    hints.rebuilt.rebuilt = hints.rebuilt := by
  cases hselection : hints.incrementalSelection with
  | none => simp [ExecutionHints.rebuilt, hselection]
  | some selection =>
    simp [ExecutionHints.rebuilt, hselection, rebuiltIncrementalSelection_rebuilt]

/-- Building an envelope of a dump is done once. -/
theorem GxArtifactEnvelope.rebuilt_rebuilt (envelope : GxArtifactEnvelope) :
    envelope.rebuilt.rebuilt = envelope.rebuilt := by
  simp [GxArtifactEnvelope.rebuilt, AssignmentScope.rebuilt, ResolvedExecutionScope.rebuilt,
    CompiledFrom.rebuilt, ExecutionHints.rebuilt_rebuilt,
    textOrDefault_textOrDefault envelope.artifactVersion "v1" (by decide),
    textOrDefault_textOrDefault envelope.compiledFrom.compilerVersion "unknown"
      (by decide)]

/-! ### Validation artifacts -/

/-- `ValidationArtifactFailedRowsPolicyEntity`. -/
structure ValidationFailedRowsPolicy where
  mode : Option Text
  limit : Option ℤ
  includeRowIdentifier : Option Bool
  includePrimaryKey : Option Bool

/-- `ValidationArtifactEvidencePolicyEntity`. -/
structure ValidationEvidencePolicy where
  failedRows : Option ValidationFailedRowsPolicy
  emitCompiledArtifact : Option Bool
  emitGeneratedSql : Option Bool

/-- `ValidationArtifactExecutionHintsEntity`. -/
structure ValidationExecutionHints where
  recommendedEngineTarget : Option Text
  primaryKeyFields : List Text
  businessKeyFields : List Text
  supportedExecutionShapes : List Text
  evidence : Option ValidationEvidencePolicy
  incrementalSelection : Option IncrementalSelectionEntity

/-- `ValidationArtifactRunPlanningTraceabilityEntity`. -/
structure ValidationTraceability where
  ruleId : Option Text
  ruleVersionId : Option Text
  validationArtifactId : Text
  validationArtifactVersion : ℕ
  dataObjectVersionId : Option Text

/-- `ValidationArtifactSourceTargetEntity`. -/
structure ValidationSourceTarget where
  dataObjectId : Option Text
  dataObjectVersionId : Option Text
  datasetId : Option Text
  dataProductId : Option Text

/-- `ValidationArtifactSourceMaterializationEntity`. -/
structure ValidationSourceMaterialization where
  landingZoneArtifactId : Option Text
  landingZoneVersionId : Option Text
  outputLocation : Option Text
  joinType : Option Text
  joinKeys : List Text
  leftSource : Option ValidationSourceTarget
  rightSource : Option ValidationSourceTarget

/-- `ValidationArtifactRunPlanningEntity`. -/
structure RunPlanning where
  engineTarget : Option Text
  executionShape : Option Text
  groupingKey : Option Text
  groupingValues : List Text
  traceability : Option ValidationTraceability
  sourceMaterialization : Option ValidationSourceMaterialization

/-- `ValidationArtifactEngineArtifactEntity`, with the envelope whose dump is its payload. -/
structure EngineArtifact where
  engineType : Text
  artifactKind : Text
  artifactSchemaVersion : Text
  payload : GxArtifactEnvelope

/-- The fields of a validation artifact that no repository reads. -/
structure ArtifactBody where
  executionHints : ValidationExecutionHints
  runPlanning : RunPlanning
  engineArtifact : EngineArtifact

/-- `ValidationArtifactEnvelopeEntity` of a GX envelope. -/
structure ValidationArtifactEnvelope where
  validationArtifactId : Text
  validationArtifactVersion : ℕ
  content : ValidationContent ArtifactBody
  savedBy : Option Text
  sourcePipeline : Option Text
  status : Option Text
  artifactHash : Option Text

/-! ### Extra fields that are forbidden -/

/-- `extra="forbid"` on a dump without `None`. -/
def forbidExtra (extra : Dict) : Except PyError Unit :=
  if (withoutNone extra).isEmpty then .ok ()
  else .error (.builtin "ValidationError" "Extra inputs are not permitted")

theorem forbidExtra_ok : forbidExtra extra = .ok () ↔ Bare extra := by
  rw [forbidExtra, ← withoutNone_eq_nil]
  split
  · rename_i h
    simpa using h
  · rename_i h
    simpa using h

/-- `ValidationArtifactFailedRowsPolicyEntity.model_validate`, of a dump. -/
def validateFailedRows (policy : FailedRowsPolicy) : Except PyError ValidationFailedRowsPolicy := do
  forbidExtra policy.extra
  return ⟨policy.mode, policy.limit, policy.includeRowIdentifier, policy.includePrimaryKey⟩

/-- `ValidationArtifactEvidencePolicyEntity.model_validate`, of a dump. -/
def validateEvidence (policy : EvidencePolicy) : Except PyError ValidationEvidencePolicy := do
  let failedRows ← policy.failedRows.mapM validateFailedRows
  forbidExtra policy.extra
  return ⟨failedRows, policy.emitCompiledArtifact, policy.emitGeneratedSql⟩

/-- `ValidationArtifactSourceTargetEntity.model_validate`, of a dump. -/
def validateSourceTarget (target : SourceTarget) : Except PyError ValidationSourceTarget := do
  forbidExtra target.extra
  return ⟨target.dataObjectId, target.dataObjectVersionId, target.datasetId, target.dataProductId⟩

/-- The materialization of a run planning. Its key pairs stay in the payload. -/
def validateSourceMaterialization (materialization : SourceMaterialization) :
    Except PyError ValidationSourceMaterialization := do
  let leftSource ← materialization.leftSource.mapM validateSourceTarget
  let rightSource ← materialization.rightSource.mapM validateSourceTarget
  return ⟨materialization.landingZoneArtifactId, materialization.landingZoneVersionId,
    materialization.outputLocation, materialization.joinType, materialization.joinKeys, leftSource,
    rightSource⟩

/-- The policy has no field that a validation artifact forbids. -/
structure EvidencePolicy.Declared (policy : EvidencePolicy) : Prop where
  evidence : Bare policy.extra
  failedRows : ∀ rows ∈ policy.failedRows, Bare rows.extra

/-- The sources have no field that a validation artifact forbids. -/
structure SourceMaterialization.Declared (materialization : SourceMaterialization) : Prop where
  leftSource : ∀ source ∈ materialization.leftSource, Bare source.extra
  rightSource : ∀ source ∈ materialization.rightSource, Bare source.extra

/-- A validation artifact takes the envelope's evidence policy and its sources. -/
structure GxArtifactEnvelope.Declared (envelope : GxArtifactEnvelope) : Prop where
  evidence : ∀ policy ∈ envelope.executionHints.evidence, policy.Declared
  sources : ∀ contract ∈ envelope.executionContract,
    ∀ materialization ∈ contract.sourceMaterialization, materialization.Declared

/-! ### The translations -/

/-- The validation artifact of an envelope. -/
def buildValidationArtifactEnvelope (gxEnvelope : GxArtifactEnvelope) :
    Except PyError ValidationArtifactEnvelope := do
  let executionContract := gxEnvelope.executionContract
  let executionShape := executionContract.bind GxExecutionContract.executionShape
  let versionIds := gxEnvelope.resolvedExecutionScope.dataObjectVersionIds
  let evidence ← gxEnvelope.executionHints.evidence.mapM validateEvidence
  let sourceMaterialization ← (executionContract.bind
    GxExecutionContract.sourceMaterialization).mapM validateSourceMaterialization
  return {
    validationArtifactId := gxEnvelope.suiteId
    validationArtifactVersion := gxEnvelope.suiteVersion
    content := {
      artifactContractVersion := "v1"
      engineType := "gx"
      assignmentScope := ⟨gxEnvelope.assignmentScope.dataObjectId,
        gxEnvelope.assignmentScope.datasetId, gxEnvelope.assignmentScope.dataProductId⟩
      resolvedExecutionScope := gxEnvelope.resolvedExecutionScope
      compiledFrom := gxEnvelope.compiledFrom
      body := {
        executionHints := {
          recommendedEngineTarget := gxEnvelope.executionHints.recommendedEngine
          primaryKeyFields := gxEnvelope.executionHints.primaryKeyFields
          businessKeyFields := gxEnvelope.executionHints.businessKeyFields
          supportedExecutionShapes := (executionShape.filter (· ≠ [])).toList
          evidence := evidence
          incrementalSelection := gxEnvelope.executionHints.incrementalSelection }
        runPlanning := {
          engineTarget := executionContract.elim gxEnvelope.executionHints.recommendedEngine
            GxExecutionContract.engineTarget
          executionShape := executionShape
          groupingKey := if versionIds = [] then none else some "data_object_version_id"
          groupingValues := versionIds
          traceability := (executionContract.bind GxExecutionContract.traceability).map
            fun traceability => ⟨traceability.ruleId, traceability.ruleVersionId,
              gxEnvelope.suiteId, gxEnvelope.suiteVersion, traceability.dataObjectVersionId⟩
          sourceMaterialization := sourceMaterialization }
        engineArtifact := {
          engineType := "gx"
          artifactKind := "gx_expectation_suite"
          artifactSchemaVersion := "gx-artifact-envelope/" ++ gxEnvelope.artifactVersion
          payload := gxEnvelope.withoutNone } } }
    savedBy := gxEnvelope.savedBy
    sourcePipeline := gxEnvelope.sourcePipeline
    status := gxEnvelope.status
    artifactHash := gxEnvelope.artifactHash }

/-- `build_validation_artifact_envelope_from_gx_artifact`, of the dump of an envelope. -/
def buildValidationArtifactEnvelopeFromGxArtifact (payload : GxArtifactEnvelope) :
    Except PyError ValidationArtifactEnvelope :=
  buildValidationArtifactEnvelope payload.rebuilt

/-- `build_gx_artifact_envelope_from_validation_artifact`, of an artifact with the engine `gx`. The
payload has an id and versions of its own. -/
def buildGxArtifactEnvelopeFromValidationArtifact (artifact : ValidationArtifactEnvelope) :
    GxArtifactEnvelope :=
  let gxPayload := artifact.content.body.engineArtifact.payload
  { gxPayload with
    savedBy := artifact.savedBy.or gxPayload.savedBy
    sourcePipeline := artifact.sourcePipeline.or gxPayload.sourcePipeline
    status := artifact.status.or gxPayload.status
    artifactHash := artifact.artifactHash.or gxPayload.artifactHash : GxArtifactEnvelope }.rebuilt

/-! ### What is accepted -/

theorem exists_validateFailedRows_iff {policy : FailedRowsPolicy} :
    (∃ value, validateFailedRows policy = .ok value) ↔ Bare policy.extra := by
  refine exists_bind_ok_iff.trans ?_
  rw [← forbidExtra_ok]
  exact ⟨fun ⟨_, h⟩ => h, fun h => ⟨(), h⟩⟩

theorem exists_validateEvidence_iff {policy : EvidencePolicy} :
    (∃ value, validateEvidence policy = .ok value) ↔ policy.Declared := by
  rw [validateEvidence]
  constructor
  · intro h
    obtain ⟨failedRows, hrows, h⟩ := exists_bind_iff.mp h
    obtain ⟨_, hforbid⟩ := exists_bind_ok_iff.mp h
    refine ⟨forbidExtra_ok.mp hforbid, fun rows hmem => ?_⟩
    exact exists_validateFailedRows_iff.mp (exists_optionMapM_iff.mp ⟨failedRows, hrows⟩ rows hmem)
  · intro h
    obtain ⟨failedRows, hrows⟩ := exists_optionMapM_iff.mpr fun rows hmem =>
      exists_validateFailedRows_iff.mpr (h.failedRows rows hmem)
    exact exists_bind_iff.mpr ⟨failedRows, hrows,
      exists_bind_ok_iff.mpr ⟨(), forbidExtra_ok.mpr h.evidence⟩⟩

theorem exists_validateSourceTarget_iff {target : SourceTarget} :
    (∃ value, validateSourceTarget target = .ok value) ↔ Bare target.extra := by
  refine exists_bind_ok_iff.trans ?_
  rw [← forbidExtra_ok]
  exact ⟨fun ⟨_, h⟩ => h, fun h => ⟨(), h⟩⟩

theorem exists_validateSourceMaterialization_iff {materialization : SourceMaterialization} :
    (∃ value, validateSourceMaterialization materialization = .ok value) ↔
      materialization.Declared := by
  have hsource : ∀ source : Option SourceTarget,
      (∃ value, source.mapM validateSourceTarget = .ok value) ↔ ∀ s ∈ source, Bare s.extra :=
    fun source => exists_optionMapM_iff.trans
      (forall₂_congr fun _ _ => exists_validateSourceTarget_iff)
  rw [validateSourceMaterialization]
  constructor
  · intro h
    obtain ⟨leftSource, hleft, h⟩ := exists_bind_iff.mp h
    exact ⟨(hsource _).mp ⟨_, hleft⟩, (hsource _).mp (exists_bind_ok_iff.mp h)⟩
  · intro h
    obtain ⟨leftSource, hleft⟩ := (hsource _).mpr h.leftSource
    exact exists_bind_iff.mpr ⟨leftSource, hleft,
      exists_bind_ok_iff.mpr ((hsource _).mpr h.rightSource)⟩

/-- An envelope becomes a validation artifact unless it has a field that the artifact forbids. -/
theorem exists_buildValidationArtifactEnvelope_iff {gxEnvelope : GxArtifactEnvelope} :
    (∃ artifact, buildValidationArtifactEnvelope gxEnvelope = .ok artifact) ↔
      gxEnvelope.Declared := by
  have hevidence : (∃ value, gxEnvelope.executionHints.evidence.mapM validateEvidence = .ok value) ↔
      ∀ policy ∈ gxEnvelope.executionHints.evidence, policy.Declared :=
    exists_optionMapM_iff.trans (forall₂_congr fun _ _ => exists_validateEvidence_iff)
  have hsources : (∃ value, (gxEnvelope.executionContract.bind
      GxExecutionContract.sourceMaterialization).mapM validateSourceMaterialization = .ok value) ↔
      ∀ contract ∈ gxEnvelope.executionContract,
        ∀ materialization ∈ contract.sourceMaterialization, materialization.Declared := by
    refine exists_optionMapM_iff.trans ?_
    simp only [exists_validateSourceMaterialization_iff, Option.mem_def, Option.bind_eq_some_iff]
    constructor
    · intro h contract hcontract materialization hmem
      exact h materialization ⟨contract, hcontract, hmem⟩
    · rintro h materialization ⟨contract, hcontract, hmem⟩
      exact h contract hcontract materialization hmem
  rw [buildValidationArtifactEnvelope]
  constructor
  · intro h
    obtain ⟨evidence, he, h⟩ := exists_bind_iff.mp h
    exact ⟨hevidence.mp ⟨_, he⟩, hsources.mp (exists_bind_ok_iff.mp h)⟩
  · intro h
    obtain ⟨evidence, he⟩ := hevidence.mpr h.evidence
    exact exists_bind_iff.mpr ⟨evidence, he, exists_bind_ok_iff.mpr (hsources.mpr h.sources)⟩

/-- The fields that a validation artifact forbids are not changed by a builder. -/
@[simp] theorem GxArtifactEnvelope.declared_rebuilt :
    envelope.rebuilt.Declared ↔ envelope.Declared :=
  ⟨fun h => ⟨h.evidence, h.sources⟩, fun h => ⟨h.evidence, h.sources⟩⟩

/-! ### Round trips -/

theorem GxArtifactEnvelope.withoutNone_rebuilt (envelope : GxArtifactEnvelope) :
    envelope.rebuilt.withoutNone = envelope.withoutNone.rebuilt := rfl

theorem buildGx_of_buildValidation {payload : GxArtifactEnvelope}
    {artifact : ValidationArtifactEnvelope}
    (h : buildValidationArtifactEnvelopeFromGxArtifact payload = .ok artifact) :
    buildGxArtifactEnvelopeFromValidationArtifact artifact = payload.withoutNone.rebuilt := by
  rw [buildValidationArtifactEnvelopeFromGxArtifact, buildValidationArtifactEnvelope] at h
  obtain ⟨evidence, _, h⟩ := ok_of_bind h
  obtain ⟨materialization, _, h⟩ := ok_of_bind h
  cases h
  rw [← payload.withoutNone.rebuilt_rebuilt, ← payload.withoutNone_rebuilt]
  simp only [buildGxArtifactEnvelopeFromValidationArtifact]
  congr 1
  simp [GxArtifactEnvelope.withoutNone, GxArtifactEnvelope.rebuilt]

/-! ### Envelopes that a round trip keeps -/

theorem map_eq_self_iff {α : Type} {f : α → α} {o : Option α} :
    o.map f = o ↔ ∀ x ∈ o, f x = x := by
  cases o <;> simp

theorem noneFree_withoutNone (extra : Dict) : NoneFree (withoutNone extra) := by
  intro e he
  have hkept := (List.mem_filter.mp he).2
  simpa using hkept

theorem FailedRowsPolicy.withoutNone_eq_self {policy : FailedRowsPolicy} :
    policy.withoutNone = policy ↔ NoneFree policy.extra := by
  cases policy
  simp [FailedRowsPolicy.withoutNone, Artifacts.withoutNone_eq_self]

theorem EvidencePolicy.withoutNone_eq_self {policy : EvidencePolicy} :
    policy.withoutNone = policy ↔
      (∀ rows ∈ policy.failedRows, NoneFree rows.extra) ∧ NoneFree policy.extra := by
  cases policy
  simp [EvidencePolicy.withoutNone, map_eq_self_iff, FailedRowsPolicy.withoutNone_eq_self,
    Artifacts.withoutNone_eq_self]

theorem Traceability.withoutNone_eq_self {traceability : Traceability} :
    traceability.withoutNone = traceability ↔ NoneFree traceability.extra := by
  cases traceability
  simp [Traceability.withoutNone, Artifacts.withoutNone_eq_self]

theorem SourceTarget.withoutNone_eq_self {target : SourceTarget} :
    target.withoutNone = target ↔ NoneFree target.extra := by
  cases target
  simp [SourceTarget.withoutNone, Artifacts.withoutNone_eq_self]

/-- No extra field of a materialization or of its sources is `None`. -/
structure SourceMaterialization.NoneFree (materialization : SourceMaterialization) : Prop where
  leftSource : ∀ source ∈ materialization.leftSource, Artifacts.NoneFree source.extra
  rightSource : ∀ source ∈ materialization.rightSource, Artifacts.NoneFree source.extra
  extra : Artifacts.NoneFree materialization.extra

theorem SourceMaterialization.withoutNone_eq_self {materialization : SourceMaterialization} :
    materialization.withoutNone = materialization ↔ materialization.NoneFree := by
  have hfields : materialization.withoutNone = materialization ↔
      (∀ source ∈ materialization.leftSource, Artifacts.NoneFree source.extra) ∧
        (∀ source ∈ materialization.rightSource, Artifacts.NoneFree source.extra) ∧
          Artifacts.NoneFree materialization.extra := by
    cases materialization
    simp [SourceMaterialization.withoutNone, map_eq_self_iff, SourceTarget.withoutNone_eq_self,
      Artifacts.withoutNone_eq_self]
  exact hfields.trans ⟨fun ⟨hl, hr, he⟩ => ⟨hl, hr, he⟩,
    fun h => ⟨h.leftSource, h.rightSource, h.extra⟩⟩

/-- No extra field of a contract or of its parts is `None`. -/
structure GxExecutionContract.NoneFree (contract : GxExecutionContract) : Prop where
  traceability : ∀ t ∈ contract.traceability, Artifacts.NoneFree t.extra
  sourceMaterialization : ∀ m ∈ contract.sourceMaterialization, m.NoneFree
  extra : Artifacts.NoneFree contract.extra

theorem GxExecutionContract.withoutNone_eq_self {contract : GxExecutionContract} :
    contract.withoutNone = contract ↔ contract.NoneFree := by
  have hfields : contract.withoutNone = contract ↔
      (∀ t ∈ contract.traceability, Artifacts.NoneFree t.extra) ∧
        (∀ m ∈ contract.sourceMaterialization, m.NoneFree) ∧
          Artifacts.NoneFree contract.extra := by
    cases contract
    simp [GxExecutionContract.withoutNone, map_eq_self_iff, Traceability.withoutNone_eq_self,
      SourceMaterialization.withoutNone_eq_self, Artifacts.withoutNone_eq_self]
  exact hfields.trans ⟨fun ⟨ht, hm, he⟩ => ⟨ht, hm, he⟩,
    fun h => ⟨h.traceability, h.sourceMaterialization, h.extra⟩⟩

theorem EvidencePolicy.withoutNone_withoutNone (policy : EvidencePolicy) :
    policy.withoutNone.withoutNone = policy.withoutNone := by
  rw [EvidencePolicy.withoutNone_eq_self]
  refine ⟨fun rows hrows => ?_, noneFree_withoutNone _⟩
  obtain ⟨_, _, rfl⟩ := Option.map_eq_some_iff.mp hrows
  exact noneFree_withoutNone _

theorem SourceMaterialization.noneFree_withoutNone (materialization : SourceMaterialization) :
    materialization.withoutNone.NoneFree where
  leftSource source hsource := by
    obtain ⟨_, _, rfl⟩ := Option.map_eq_some_iff.mp hsource
    exact Artifacts.noneFree_withoutNone _
  rightSource source hsource := by
    obtain ⟨_, _, rfl⟩ := Option.map_eq_some_iff.mp hsource
    exact Artifacts.noneFree_withoutNone _
  extra := Artifacts.noneFree_withoutNone _

theorem GxExecutionContract.noneFree_withoutNone (contract : GxExecutionContract) :
    contract.withoutNone.NoneFree where
  traceability t ht := by
    obtain ⟨_, _, rfl⟩ := Option.map_eq_some_iff.mp ht
    exact Artifacts.noneFree_withoutNone _
  sourceMaterialization m hm := by
    obtain ⟨_, _, rfl⟩ := Option.map_eq_some_iff.mp hm
    exact SourceMaterialization.noneFree_withoutNone _
  extra := Artifacts.noneFree_withoutNone _

@[simp] theorem GxArtifactEnvelope.withoutNone_withoutNone (envelope : GxArtifactEnvelope) :
    envelope.withoutNone.withoutNone = envelope.withoutNone := by
  have hevidence : (envelope.executionHints.evidence.map EvidencePolicy.withoutNone).map
      EvidencePolicy.withoutNone = envelope.executionHints.evidence.map EvidencePolicy.withoutNone := by
    cases envelope.executionHints.evidence with
    | none => rfl
    | some policy => exact congrArg some policy.withoutNone_withoutNone
  have hcontract : (envelope.executionContract.map GxExecutionContract.withoutNone).map
      GxExecutionContract.withoutNone =
        envelope.executionContract.map GxExecutionContract.withoutNone := by
    cases envelope.executionContract with
    | none => rfl
    | some contract =>
      exact congrArg some (GxExecutionContract.withoutNone_eq_self.mpr contract.noneFree_withoutNone)
  simp only [GxArtifactEnvelope.withoutNone, ExecutionHints.withoutNone, hevidence, hcontract]

theorem rebuiltIncrementalSelection_eq_self {selection : IncrementalSelectionEntity} :
    rebuiltIncrementalSelection selection = selection ↔
      selection.selectionMode ≠ some [] ∧ Present selection.selectedDataObjectVersionIds := by
  cases selection with
  | mk selectionMode ids =>
    have hmode : (selectionMode.map fun mode => textOrDefault mode "None") = selectionMode ↔
        selectionMode ≠ some [] := by
      cases selectionMode with
      | none => simp
      | some mode => simp [textOrDefault_eq_self "None" (by decide)]
    simp [rebuiltIncrementalSelection, hmode, presentIds_eq_self]

/-- The envelope has no tags, its lists hold stripped texts, no version and no mode is empty, and no
extra field is `None`. -/
structure GxArtifactEnvelope.Canonical (envelope : GxArtifactEnvelope) : Prop where
  artifactVersion : envelope.artifactVersion ≠ []
  tagIds : envelope.assignmentScope.tagIds = []
  dataObjectVersionIds : Present envelope.resolvedExecutionScope.dataObjectVersionIds
  ruleIds : Present envelope.compiledFrom.ruleIds
  compilerVersion : envelope.compiledFrom.compilerVersion ≠ []
  primaryKeyFields : Present envelope.executionHints.primaryKeyFields
  businessKeyFields : Present envelope.executionHints.businessKeyFields
  incrementalSelection : ∀ selection ∈ envelope.executionHints.incrementalSelection,
    selection.selectionMode ≠ some [] ∧ Present selection.selectedDataObjectVersionIds
  evidence : ∀ policy ∈ envelope.executionHints.evidence,
    (∀ rows ∈ policy.failedRows, NoneFree rows.extra) ∧ NoneFree policy.extra
  executionContract : ∀ contract ∈ envelope.executionContract, contract.NoneFree

/-- A round trip keeps exactly the canonical envelopes. -/
theorem GxArtifactEnvelope.withoutNone_rebuilt_eq_self :
    envelope.withoutNone.rebuilt = envelope ↔ envelope.Canonical := by
  have hfields : envelope.withoutNone.rebuilt = envelope ↔
      textOrDefault envelope.artifactVersion "v1" = envelope.artifactVersion ∧
        envelope.assignmentScope.rebuilt = envelope.assignmentScope ∧
        envelope.resolvedExecutionScope.rebuilt = envelope.resolvedExecutionScope ∧
        envelope.compiledFrom.rebuilt = envelope.compiledFrom ∧
        envelope.executionHints.withoutNone.rebuilt = envelope.executionHints ∧
        envelope.executionContract.map GxExecutionContract.withoutNone =
          envelope.executionContract := by
    cases envelope
    simp [GxArtifactEnvelope.withoutNone, GxArtifactEnvelope.rebuilt]
  have hscope : envelope.assignmentScope.rebuilt = envelope.assignmentScope ↔
      envelope.assignmentScope.tagIds = [] := by
    cases envelope.assignmentScope
    simp [AssignmentScope.rebuilt, eq_comm]
  have htargets : envelope.resolvedExecutionScope.rebuilt = envelope.resolvedExecutionScope ↔
      Present envelope.resolvedExecutionScope.dataObjectVersionIds := by
    cases envelope.resolvedExecutionScope
    simp [ResolvedExecutionScope.rebuilt, presentIds_eq_self]
  have hcompiled : envelope.compiledFrom.rebuilt = envelope.compiledFrom ↔
      Present envelope.compiledFrom.ruleIds ∧ envelope.compiledFrom.compilerVersion ≠ [] := by
    cases envelope.compiledFrom
    simp [CompiledFrom.rebuilt, presentIds_eq_self,
      textOrDefault_eq_self "unknown" (by decide)]
  have hhints : envelope.executionHints.withoutNone.rebuilt = envelope.executionHints ↔
      Present envelope.executionHints.primaryKeyFields ∧
        Present envelope.executionHints.businessKeyFields ∧
        (∀ policy ∈ envelope.executionHints.evidence,
          (∀ rows ∈ policy.failedRows, NoneFree rows.extra) ∧ NoneFree policy.extra) ∧
        ∀ selection ∈ envelope.executionHints.incrementalSelection,
          selection.selectionMode ≠ some [] ∧ Present selection.selectedDataObjectVersionIds := by
    cases envelope.executionHints
    simp [ExecutionHints.withoutNone, ExecutionHints.rebuilt, presentIds_eq_self, map_eq_self_iff,
      EvidencePolicy.withoutNone_eq_self, rebuiltIncrementalSelection_eq_self]
  have hcontract : envelope.executionContract.map GxExecutionContract.withoutNone =
      envelope.executionContract ↔ ∀ contract ∈ envelope.executionContract, contract.NoneFree := by
    simp only [map_eq_self_iff, GxExecutionContract.withoutNone_eq_self]
  rw [hfields, hscope, htargets, hcompiled, hhints, hcontract,
    textOrDefault_eq_self "v1" (by decide)]
  constructor
  · rintro ⟨hversion, htags, hids, ⟨hrules, hcompiler⟩, ⟨hprimary, hbusiness, hevidence, hselection⟩,
      hnone⟩
    exact ⟨hversion, htags, hids, hrules, hcompiler, hprimary, hbusiness, hselection, hevidence,
      hnone⟩
  · intro h
    exact ⟨h.artifactVersion, h.tagIds, h.dataObjectVersionIds, ⟨h.ruleIds, h.compilerVersion⟩,
      ⟨h.primaryKeyFields, h.businessKeyFields, h.evidence, h.incrementalSelection⟩,
      h.executionContract⟩

/-! ### Dumps of declared envelopes -/

theorem Bare.withoutNone (h : Bare extra) : Bare (Artifacts.withoutNone extra) := by
  rw [withoutNone_eq_nil.mpr h]
  exact fun _ he => by cases he

theorem GxArtifactEnvelope.Declared.withoutNone (h : envelope.Declared) :
    envelope.withoutNone.Declared where
  evidence policy hpolicy := by
    obtain ⟨policy, hmem, rfl⟩ := Option.map_eq_some_iff.mp hpolicy
    have hdeclared := h.evidence policy hmem
    refine ⟨hdeclared.evidence.withoutNone, fun rows hrows => ?_⟩
    obtain ⟨rows, hmem, rfl⟩ := Option.map_eq_some_iff.mp hrows
    exact (hdeclared.failedRows rows hmem).withoutNone
  sources contract hcontract materialization hmaterialization := by
    obtain ⟨contract, hmem, rfl⟩ := Option.map_eq_some_iff.mp hcontract
    obtain ⟨materialization, hmaterial, rfl⟩ := Option.map_eq_some_iff.mp hmaterialization
    have hdeclared := h.sources contract hmem materialization hmaterial
    refine ⟨fun source hsource => ?_, fun source hsource => ?_⟩
    · obtain ⟨source, hleft, rfl⟩ := Option.map_eq_some_iff.mp hsource
      exact (hdeclared.leftSource source hleft).withoutNone
    · obtain ⟨source, hright, rfl⟩ := Option.map_eq_some_iff.mp hsource
      exact (hdeclared.rightSource source hright).withoutNone

end Artifacts

end DqMadeEasy
