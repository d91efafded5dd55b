import DqMadeEasy.Planner.Grouped
import DqMadeEasy.Text.Keys
import DqMadeEasy.Worker.Loop

/-!
# GX suite envelopes

`GxArtifactEnvelopeEntity` and its dump by field names, which keeps the fields that are `None`. The
suite itself is a dictionary that the entity takes as it is.
-/

namespace DqMadeEasy

namespace Artifacts

open Worker

/-! ### Dumps of fields -/

def optText (value : Option Text) : Json := value.elim .null fun t => .scalar (.str t)

/-- An optional integer. -/
def optInt (value : Option ℤ) : Json := value.elim .null .int

def optBool (value : Option Bool) : Json := value.elim .null fun b => .scalar (.bool b)

def optDict {α : Type} (dump : α → Dict) (value : Option α) : Json :=
  value.elim .null fun entity => .dict (dump entity)

/-! ### Scope and provenance -/

/-- `GxArtifactAssignmentScopeEntity`. -/
structure AssignmentScope where
  dataObjectId : Option Text
  datasetId : Option Text
  dataProductId : Option Text
  tagIds : List Text

def AssignmentScope.modelDump (scope : AssignmentScope) : Dict :=
  [entry "dataObjectId" (optText scope.dataObjectId), entry "datasetId" (optText scope.datasetId),
    entry "dataProductId" (optText scope.dataProductId), entry "tagIds" (texts scope.tagIds)]

/-- `GxArtifactResolvedExecutionScopeEntity`. -/
structure ResolvedExecutionScope where
  dataObjectVersionIds : List Text

def ResolvedExecutionScope.modelDump (scope : ResolvedExecutionScope) : Dict :=
  [entry "dataObjectVersionIds" (texts scope.dataObjectVersionIds)]

/-- `GxArtifactCompiledFromEntity`. -/
structure CompiledFrom where
  ruleIds : List Text
  compilerVersion : Text
  generatedAt : Text

def CompiledFrom.modelDump (compiledFrom : CompiledFrom) : Dict :=
  [entry "ruleIds" (texts compiledFrom.ruleIds),
    entry "compilerVersion" (.scalar (.str compiledFrom.compilerVersion)),
    entry "generatedAt" (.scalar (.str compiledFrom.generatedAt))]

/-! ### Execution hints -/

/-- `GxArtifactFailedRowsPolicyEntity`. -/
structure FailedRowsPolicy where
  mode : Option Text
  limit : Option ℤ
  includeRowIdentifier : Option Bool
  includePrimaryKey : Option Bool
  extra : Dict

def FailedRowsPolicy.modelDump (policy : FailedRowsPolicy) : Dict :=
  [entry "mode" (optText policy.mode), entry "limit" (optInt policy.limit),
    entry "includeRowIdentifier" (optBool policy.includeRowIdentifier),
    entry "includePrimaryKey" (optBool policy.includePrimaryKey)] ++ policy.extra

/-- `GxArtifactEvidencePolicyEntity`. -/
structure EvidencePolicy where
  failedRows : Option FailedRowsPolicy
  emitCompiledArtifact : Option Bool
  emitGeneratedSql : Option Bool
  extra : Dict

def EvidencePolicy.modelDump (policy : EvidencePolicy) : Dict :=
  [entry "failedRows" (optDict FailedRowsPolicy.modelDump policy.failedRows),
    entry "emitCompiledArtifact" (optBool policy.emitCompiledArtifact),
    entry "emitGeneratedSql" (optBool policy.emitGeneratedSql)] ++ policy.extra

/-- The dump of `GxExecutionIncrementalSelectionEntity`. -/
def dumpIncrementalSelection (selection : Planner.IncrementalSelectionEntity) : Dict :=
  [entry "selectionMode" (optText selection.selectionMode),
    entry "selectedDataObjectVersionIds" (texts selection.selectedDataObjectVersionIds)]

/-- `GxArtifactExecutionHintsEntity`. -/
structure ExecutionHints where
  recommendedEngine : Option Text
  primaryKeyFields : List Text
  businessKeyFields : List Text
  evidence : Option EvidencePolicy
  incrementalSelection : Option Planner.IncrementalSelectionEntity

def ExecutionHints.modelDump (hints : ExecutionHints) : Dict :=
  [entry "recommendedEngine" (optText hints.recommendedEngine),
    entry "primaryKeyFields" (texts hints.primaryKeyFields),
    entry "businessKeyFields" (texts hints.businessKeyFields),
    entry "evidence" (optDict EvidencePolicy.modelDump hints.evidence),
    entry "incrementalSelection" (optDict dumpIncrementalSelection hints.incrementalSelection)]

/-! ### Execution contract -/

/-- `GxExecutionTraceabilityEntity`. -/
structure Traceability where
  ruleId : Option Text
  ruleVersionId : Option Text
  gxSuiteId : Option Text
  gxSuiteVersion : Option ℤ
  dataObjectVersionId : Option Text
  sourceRuleExpression : Option Text
  compiledExpression : Option Text
  artifactKey : Option Text
  extra : Dict

def Traceability.modelDump (traceability : Traceability) : Dict :=
  [entry "ruleId" (optText traceability.ruleId),
    entry "ruleVersionId" (optText traceability.ruleVersionId),
    entry "gxSuiteId" (optText traceability.gxSuiteId),
    entry "gxSuiteVersion" (optInt traceability.gxSuiteVersion),
    entry "dataObjectVersionId" (optText traceability.dataObjectVersionId),
    entry "sourceRuleExpression" (optText traceability.sourceRuleExpression),
    entry "compiledExpression" (optText traceability.compiledExpression),
    entry "artifactKey" (optText traceability.artifactKey)] ++ traceability.extra

/-- `GxExecutionSourceTargetEntity`. -/
structure SourceTarget where
  dataObjectId : Option Text
  dataObjectVersionId : Option Text
  datasetId : Option Text
  dataProductId : Option Text
  extra : Dict

def SourceTarget.modelDump (target : SourceTarget) : Dict :=
  [entry "dataObjectId" (optText target.dataObjectId),
    entry "dataObjectVersionId" (optText target.dataObjectVersionId),
    entry "datasetId" (optText target.datasetId),
    entry "dataProductId" (optText target.dataProductId)] ++ target.extra

/-- `GxExecutionSourceMaterializationEntity`. -/
structure SourceMaterialization where
  landingZoneArtifactId : Option Text
  landingZoneVersionId : Option Text
  outputLocation : Option Text
  joinType : Option Text
  joinKeys : List Text
  joinKeyPairs : List Dict
  leftSource : Option SourceTarget
  rightSource : Option SourceTarget
  extra : Dict

def SourceMaterialization.modelDump (materialization : SourceMaterialization) : Dict :=
  [entry "landingZoneArtifactId" (optText materialization.landingZoneArtifactId),
    entry "landingZoneVersionId" (optText materialization.landingZoneVersionId),
    entry "outputLocation" (optText materialization.outputLocation),
    entry "joinType" (optText materialization.joinType),
    entry "joinKeys" (texts materialization.joinKeys),
    entry "joinKeyPairs" (.list (materialization.joinKeyPairs.map .dict)),
    entry "leftSource" (optDict SourceTarget.modelDump materialization.leftSource),
    entry "rightSource" (optDict SourceTarget.modelDump materialization.rightSource)] ++
    materialization.extra

/-- `GxExecutionContractEntity`. -/
structure GxExecutionContract where
  engineType : Option Text
  engineTarget : Option Text
  executionShape : Option Text
  traceability : Option Traceability
  sourceMaterialization : Option SourceMaterialization
  resolvedDataObjectVersionId : Option Text
  resolvedDataDeliveryId : Option Text
  resolvedDeliveryLocation : Option Text
  deliveryResolutionMode : Option Text
  selectionMode : Option Text
  scopeSelector : Dict
  suiteRefs : List Dict
  suiteCount : Option ℤ
  batchCount : Option ℤ
  extra : Dict

def GxExecutionContract.modelDump (contract : GxExecutionContract) : Dict :=
  [entry "engineType" (optText contract.engineType),
    entry "engineTarget" (optText contract.engineTarget),
    entry "executionShape" (optText contract.executionShape),
    entry "traceability" (optDict Traceability.modelDump contract.traceability),
    entry "sourceMaterialization"
      (optDict SourceMaterialization.modelDump contract.sourceMaterialization),
    entry "resolvedDataObjectVersionId" (optText contract.resolvedDataObjectVersionId),
    entry "resolvedDataDeliveryId" (optText contract.resolvedDataDeliveryId),
    entry "resolvedDeliveryLocation" (optText contract.resolvedDeliveryLocation),
    entry "deliveryResolutionMode" (optText contract.deliveryResolutionMode),
    entry "selectionMode" (optText contract.selectionMode),
    entry "scopeSelector" (.dict contract.scopeSelector),
    entry "suiteRefs" (.list (contract.suiteRefs.map .dict)),
    entry "suiteCount" (optInt contract.suiteCount),
    entry "batchCount" (optInt contract.batchCount)] ++ contract.extra

/-! ### The envelope -/

/-- `GxArtifactEnvelopeEntity`. The suite is the dictionary of a document, so none of its
dictionaries has a key twice. -/
structure GxArtifactEnvelope where
  suiteId : Text
  suiteVersion : ℕ
  suiteVersion_pos : 1 ≤ suiteVersion
  artifactVersion : Text
  assignmentScope : AssignmentScope
  resolvedExecutionScope : ResolvedExecutionScope
  gxSuite : Dict
  distinctKeys : (Json.dict gxSuite).DistinctKeys
  compiledFrom : CompiledFrom
  executionHints : ExecutionHints
  executionContract : Option GxExecutionContract
  savedBy : Option Text
  sourcePipeline : Option Text
  status : Option Text
  artifactHash : Option Text

/-- `model_dump(mode="python", by_alias=False, exclude_none=False)`. -/
def GxArtifactEnvelope.modelDump (envelope : GxArtifactEnvelope) : Dict :=
  [entry "suiteId" (.scalar (.str envelope.suiteId)),
    entry "suiteVersion" (.int envelope.suiteVersion),
    entry "artifactVersion" (.scalar (.str envelope.artifactVersion)),
    entry "assignmentScope" (.dict envelope.assignmentScope.modelDump),
    entry "resolvedExecutionScope" (.dict envelope.resolvedExecutionScope.modelDump),
    entry "gxSuite" (.dict envelope.gxSuite),
    entry "compiledFrom" (.dict envelope.compiledFrom.modelDump),
    entry "executionHints" (.dict envelope.executionHints.modelDump),
    entry "executionContract" (optDict GxExecutionContract.modelDump envelope.executionContract),
    entry "savedBy" (optText envelope.savedBy),
    entry "sourcePipeline" (optText envelope.sourcePipeline),
    entry "status" (optText envelope.status),
    entry "artifactHash" (optText envelope.artifactHash)]

/-- The fields that the planner reads. -/
def GxArtifactEnvelope.plannerSuite (envelope : GxArtifactEnvelope) : Planner.Suite where
  suiteId := envelope.suiteId
  suiteVersion := envelope.suiteVersion
  dataObjectVersionIds := envelope.resolvedExecutionScope.dataObjectVersionIds
  recommendedEngine := envelope.executionHints.recommendedEngine
  emitGeneratedSql := envelope.executionHints.evidence.bind EvidencePolicy.emitGeneratedSql
  incrementalSelection := envelope.executionHints.incrementalSelection
  executionContract := envelope.executionContract.map fun contract =>
    ⟨contract.engineType, contract.engineTarget⟩

end Artifacts

end DqMadeEasy
