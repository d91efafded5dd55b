import DqMadeEasy.Artifacts.GxSuite
import DqMadeEasy.Planner.Plan

/-!
# The inputs of the planner and the dictionary it returns

The planner takes GX envelopes and validation artifacts. A GX envelope is planned with its own dump.
A validation artifact is planned as the GX envelope it projects to, but its entry in the plan is the
artifact. The returned plan is a dictionary whose keys are in camel case.
-/

namespace DqMadeEasy

namespace Planner

open Artifacts Worker

/-! ### Inputs -/

/-- The fields of `ValidationArtifactEnvelopeEntity`, by name and by alias. -/
def validationArtifactKeys : List Text :=
  ["validationArtifactId", "validationArtifactVersion", "artifactContractVersion", "engineType",
    "assignmentScope", "resolvedExecutionScope", "compiledFrom", "executionHints", "runPlanning",
    "engineArtifact", "savedBy", "sourcePipeline", "status", "artifactHash",
    "validation_artifact_id", "validation_artifact_version", "artifact_contract_version",
    "engine_type", "assignment_scope", "resolved_execution_scope", "compiled_from",
    "execution_hints", "run_planning", "engine_artifact", "saved_by", "source_pipeline",
    "artifact_hash"].map String.toList

/-- A validation artifact: the dump of an entity, or a mapping that validates as one. The entity
forbids other keys. -/
structure ValidationArtifact where
  payload : Dict
  declared : ∀ key ∈ Assoc.keys payload, key ∈ validationArtifactKeys

/-- An item of `suites`. A mapping is what it validates as. -/
inductive SuiteInput where
  | gx (envelope : GxArtifactEnvelope)
  | validation (artifact : ValidationArtifact)

/-- `_coerce_suite`, for a projection of validation artifacts. -/
def coerceSuite (buildGxArtifactEnvelope : ValidationArtifact → Except PlanError GxArtifactEnvelope) :
    SuiteInput → Except PlanError (GxArtifactEnvelope × Dict)
  | .gx envelope => .ok (envelope, envelope.modelDump)
  | .validation artifact => do
    let envelope ← buildGxArtifactEnvelope artifact
    return (envelope, artifact.payload)

def plannerInput (suite : GxArtifactEnvelope × Dict) : Suite × Dict :=
  (suite.1.plannerSuite, suite.2)

/-- `build_plan`, for a projection of validation artifacts. -/
def buildSuitePlan [PyRuntime]
    (buildGxArtifactEnvelope : ValidationArtifact → Except PlanError GxArtifactEnvelope)
    (suites : List SuiteInput) : Except PlanError Plan :=
  buildPlan (fun input => (coerceSuite buildGxArtifactEnvelope input).map plannerInput) suites

/-! ### The plan as a dictionary -/

def PlannerChoice.text : PlannerChoice → String
  | .fullScope => "full_scope"
  | .incrementalScope => "incremental_scope"
  | .mixedScope => "mixed_scope"

/-- The text of an execution path. -/
def ExecutionPath.text : ExecutionPath → String
  | .sqlPushdownGroupedExecution => "sql_pushdown_grouped_execution"
  | .incrementalGroupedExecution => "incremental_grouped_execution"
  | .groupedExecution => "grouped_execution"
  | .mixedGroupedExecution => "mixed_grouped_execution"

/-- `incrementalSelection` of a batch. -/
def IncrementalSelection.toDict (selection : IncrementalSelection) : Dict :=
  [entry "selectionMode" (.scalar (.str selection.selectionMode)),
    entry "selectedDataObjectVersionIds" (texts selection.selectedDataObjectVersionIds)]

/-- An item of `batches`. -/
def Batch.toDict (batch : Batch) : Dict :=
  [entry "dataObjectVersionId" (.scalar (.str batch.dataObjectVersionId)),
    entry "incrementalSelection"
      (optDict IncrementalSelection.toDict batch.incrementalSelection),
    entry "suiteCount" (.int batch.suiteCount), entry "suiteIds" (texts batch.suiteIds),
    entry "suites" (.list (batch.suites.map .dict)),
    entry "plannerChoice" (.text batch.plannerChoice.text),
    entry "executionPath" (.text batch.executionPath.text)]

/-- The returned dictionary; the one of the empty plan has neither path nor choice. -/
def Plan.toDict (plan : Plan) : Dict :=
  [entry "suiteCount" (.int plan.suiteCount), entry "batchCount" (.int plan.batchCount)] ++
    plan.executionPath.elim [] (fun path => [entry "executionPath" (.text path.text)]) ++
    plan.plannerChoice.elim [] (fun choice => [entry "plannerChoice" (.text choice.text)]) ++
    [entry "batches" (.list (plan.batches.map fun batch => .dict batch.toDict))]

end Planner

end DqMadeEasy
