import DqMadeEasy.Artifacts.GxSuite
import DqMadeEasy.Dispatch.Payload

/-!
# The validation of a run plan version

A version is validated by its snapshot: the schedule, the execution contract, and the suites as they
were when the version was made. A suite snapshot keeps the scopes of its suite as dictionaries. The
checks return diagnostics; a value that a check cannot walk through raises.
-/

namespace DqMadeEasy

namespace RunPlans

open Artifacts Dispatch Planner Worker

/-! ### Snapshots -/

/-- `GxRunPlanSingleSuiteSnapshotEntity`. -/
structure SingleSuiteSnapshot where
  suiteId : Option Text
  suiteVersion : Option ℤ
  artifactVersion : Option Text
  assignmentScope : Dict
  resolvedExecutionScope : Dict
  gxSuite : Dict
  compiledFrom : Dict
  executionHints : Dict
  executionContract : Option GxExecutionContract
  savedBy : Option Text
  sourcePipeline : Option Text

/-- `GxRunPlanGroupedSuiteSnapshotEntity`. -/
structure GroupedSuiteSnapshot where
  groupedExecutionPlan : Option Dict
  suiteEnvelopes : List SingleSuiteSnapshot

/-- The `suiteSnapshot` of a version. -/
inductive SuiteSnapshot where
  | single (snapshot : SingleSuiteSnapshot)
  | grouped (snapshot : GroupedSuiteSnapshot)

/-- `GxRunPlanVersionValidationSnapshotEntity`. -/
structure VersionValidationSnapshot where
  scheduledAt : Option Text
  selectionMode : Option Text
  executionContractSnapshot : Option GxExecutionContract
  suiteSnapshot : Option SuiteSnapshot
  groupedExecutionPlan : Option Dict
  groupedSuiteEnvelopes : List SingleSuiteSnapshot

/-! ### Diagnostics -/

/-- A violation of a snapshot's structure. -/
structure Violation where
  field : String
  message : Text

def Violation.toDict (violation : Violation) : Dict :=
  [entry "field" (.text violation.field), entry "message" (.scalar (.str violation.message))]

/-- `GxRunPlanValidationDiagnosticEntity`. -/
structure ValidationDiagnostic where
  scope : String
  severity : String
  code : String
  message : Text
  details : Json

def diagnostic (code : String) (message : Text) (scope : String) (details : Json) :
    ValidationDiagnostic :=
  ⟨scope, "error", code, message, details⟩

def violationDetails (violations : List Violation) : Json :=
  .list (violations.map fun violation => .dict violation.toDict)

/-- A violation where a value is missing. -/
def required (present : Bool) (field message : String) : List Violation :=
  if present then [] else [⟨field, message.toList⟩]

@[simp] theorem required_eq_nil {present : Bool} {field message : String} :
    required present field message = [] ↔ present = true := by
  cases present <;> simp [required]

/-! ### The execution contract -/

def allowedExecutionShapes : List Text :=
  ["single_object", "join_pair", "streaming", "micro_batch"].map String.toList

/-- The check of `traceability`. -/
def traceabilityViolations : Option Traceability → List Violation
  | none => [⟨"traceability", "traceability is required"⟩]
  | some traceability =>
    required (stripped traceability.ruleId ≠ []) "traceability.rule_id" "rule_id is required" ++
      required (stripped traceability.ruleVersionId ≠ []) "traceability.rule_version_id"
        "rule_version_id is required" ++
      required (stripped traceability.gxSuiteId ≠ []) "traceability.gx_suite_id"
        "gx_suite_id is required" ++
      required (traceability.gxSuiteVersion.any (1 ≤ ·)) "traceability.gx_suite_version"
        "gx_suite_version must be >= 1"

/-- The check of `execution_shape`. -/
def shapeViolations (executionShape : Text) : List Violation :=
  if executionShape = [] then [⟨"execution_shape", "execution_shape is required"⟩]
  else if executionShape ∈ allowedExecutionShapes then []
  else [⟨"execution_shape", "unsupported execution_shape '" ++ executionShape ++ "'"⟩]

def validateExecutionContractSnapshot (contract : GxExecutionContract) : List Violation :=
  let executionShape := stripped contract.executionShape
  required (stripped contract.engineTarget ≠ []) "engine_target" "engine_target is required" ++
    shapeViolations executionShape ++
    traceabilityViolations contract.traceability ++
    required (executionShape = "single_object" → contract.sourceMaterialization.isNone)
      "source_materialization" "single_object execution must not define source_materialization" ++
    required (executionShape = "join_pair" → contract.sourceMaterialization.isSome)
      "source_materialization" "join_pair execution requires source_materialization"

/-- A contract that the validator accepts. -/
structure ContractComplete (contract : GxExecutionContract) : Prop where
  engineTarget : stripped contract.engineTarget ≠ []
  executionShape : stripped contract.executionShape ∈ allowedExecutionShapes
  traceability : ∃ t, contract.traceability = some t ∧ stripped t.ruleId ≠ [] ∧
    stripped t.ruleVersionId ≠ [] ∧ stripped t.gxSuiteId ≠ [] ∧ t.gxSuiteVersion.any (1 ≤ ·)
  singleObject : stripped contract.executionShape = "single_object" →
    contract.sourceMaterialization.isNone
  joinPair : stripped contract.executionShape = "join_pair" →
    contract.sourceMaterialization.isSome

theorem shapeViolations_eq_nil {executionShape : Text} :
    shapeViolations executionShape = [] ↔ executionShape ∈ allowedExecutionShapes := by
  rw [shapeViolations]
  split
  · rename_i h
    subst h
    decide
  · split <;> simp_all

theorem traceabilityViolations_eq_nil {traceability : Option Traceability} :
    traceabilityViolations traceability = [] ↔
      ∃ t, traceability = some t ∧ stripped t.ruleId ≠ [] ∧ stripped t.ruleVersionId ≠ [] ∧
        stripped t.gxSuiteId ≠ [] ∧ t.gxSuiteVersion.any (1 ≤ ·) := by
  cases traceability with
  | none => simp [traceabilityViolations]
  | some t => simp [traceabilityViolations]

theorem validateExecutionContractSnapshot_eq_nil {contract : GxExecutionContract} :
    validateExecutionContractSnapshot contract = [] ↔ ContractComplete contract := by
  simp only [validateExecutionContractSnapshot, List.append_eq_nil_iff, required_eq_nil,
    decide_eq_true_eq, shapeViolations_eq_nil, traceabilityViolations_eq_nil]
  constructor
  · rintro ⟨⟨⟨⟨htarget, hshape⟩, htrace⟩, hsingle⟩, hjoin⟩
    exact ⟨htarget, hshape, htrace, hsingle, hjoin⟩
  · intro h
    exact ⟨⟨⟨⟨h.engineTarget, h.executionShape⟩, h.traceability⟩, h.singleObject⟩, h.joinPair⟩

/-! ### The structure of a suite -/

section Structure

variable [PyRuntime] [PyNumerals]

def singleSuiteSnapshotStructureErrors (snapshot : SingleSuiteSnapshot) :
    Except PyError (List Violation) := do
  let targets ← iterate ((snapshot.resolvedExecutionScope.find?
    "dataObjectVersionIds").getD (.list []))
  return required (stripped snapshot.suiteId ≠ []) "suite_id" "suite_id is required" ++
    required (snapshot.suiteVersion.any (1 ≤ ·)) "suite_version" "suite_version must be >= 1" ++
    required (stripped snapshot.artifactVersion ≠ []) "artifact_version"
      "artifact_version is required" ++
    required (["dataObjectId", "datasetId", "dataProductId"].any fun key =>
        (snapshot.assignmentScope.get key).strippedText ≠ []) "assignment_scope"
      ("At least one assignment scope identifier is required: " ++
        "dataObjectId, datasetId, or dataProductId") ++
    required (targets.any fun value => value.strippedText ≠ [])
      "resolved_execution_scope.data_object_version_ids" "at least one target is required" ++
    required ((snapshot.compiledFrom.get "compilerVersion").strippedText ≠ [])
      "compiled_from.compiler_version" "compiler_version is required" ++
    required ((snapshot.compiledFrom.get "generatedAt").strippedText ≠ [])
      "compiled_from.generated_at" "generated_at is required" ++
    required ((snapshot.executionHints.get "recommendedEngine").strippedText ≠ [])
      "execution_hints.recommended_engine" "recommended_engine is required"

end Structure

/-! ### Runnable suites -/

/-- `GxSuiteValidationError`. -/
structure GxSuiteValidationError where
  suiteId : Text
  suiteVersion : Option ℤ
  reason : String
  message : Text

/-- The attributes of a suite that `assert_gx_suite_runnable` reads: those of an envelope or of a
snapshot. -/
structure SuiteAttributes where
  suiteId : Text
  suiteVersion : Option ℤ
  executionContract : Option GxExecutionContract
  targets : Json
  gxSuite : Dict

def SingleSuiteSnapshot.attributes (snapshot : SingleSuiteSnapshot) : SuiteAttributes where
  suiteId := snapshot.suiteId.getD []
  suiteVersion := snapshot.suiteVersion
  executionContract := snapshot.executionContract
  targets := (snapshot.resolvedExecutionScope.find? "dataObjectVersionIds").getD (.list [])
  gxSuite := snapshot.gxSuite

/-- The attributes of an envelope. -/
def envelopeAttributes (envelope : GxArtifactEnvelope) : SuiteAttributes where
  suiteId := envelope.suiteId
  suiteVersion := some envelope.suiteVersion
  executionContract := envelope.executionContract
  targets := texts envelope.resolvedExecutionScope.dataObjectVersionIds
  gxSuite := envelope.gxSuite

/-- `GxSuiteExpectationEntity`. -/
structure SuiteExpectation where
  expectationType : Option Text
  kwargs : Option Dict

def validationError {α : Type} : Except PyError α :=
  .error (.builtin "ValidationError" "Input should be a valid value")

/-- `GxSuiteExpectationEntity.model_validate`. -/
def readExpectation (payload : Dict) : Except PyError SuiteExpectation := do
  let declared (byAlias byName : String) : Json :=
    ((payload.find? byAlias.toList).or (payload.find? byName.toList)).getD .null
  let expectationType ← match declared "expectation_type" "expectationType" with
    | .scalar .none => .ok none
    | .scalar (.str t) => .ok (some t)
    | _ => validationError
  match declared "kwargs" "kwargs" with
  | .scalar .none => .ok ⟨expectationType, none⟩
  | .dict kwargs => .ok ⟨expectationType, some kwargs⟩
  | _ => validationError

/-- The expectations of `build_gx_suite_entity`: the items that are no mappings are left out. -/
def suiteExpectations (gxSuite : Dict) : Except PyError (List SuiteExpectation) := do
  let items ← iterate ((gxSuite.find? "expectations").getD (.list []))
  (items.filterMap Json.asDict?).mapM readExpectation

/-- What makes an expectation not executable. -/
def expectationError (suiteId : Text) (item : SuiteExpectation × ℕ) : Option Text :=
  let expectationType := stripped item.1.expectationType
  if expectationType = [] then
    some ("GX suite '" ++ suiteId ++ "' expectation at index " ++
      (toString item.2).toList ++ " is missing expectation_type")
  else if item.1.kwargs.getD [] = [] then
    some ("GX suite '" ++ suiteId ++ "' expectation '" ++ expectationType ++
      "' is missing kwargs")
  else none

section Runnable

variable [PyRuntime] [PyNumerals]

def resolvedTargetIds (values : Json) : Except PyError (List Text) :=
  if values.truthy then (iterate values).map strippedTexts else .ok []

/-- The error of `assert_gx_suite_runnable`. -/
def SuiteAttributes.refused (suite : SuiteAttributes) (reason : String) (message : Text) :
    GxSuiteValidationError :=
  ⟨suite.suiteId, suite.suiteVersion, reason, message⟩

/-- `f"GX suite '{suite_id}' {what}"`. -/
def SuiteAttributes.named (suite : SuiteAttributes) (what : String) : Text :=
  "GX suite '" ++ suite.suiteId ++ "' " ++ what.toList

/-- The check of the expectations. -/
def refusedExpectation (suite : SuiteAttributes) (expectations : List SuiteExpectation) :
    Option GxSuiteValidationError :=
  if expectations = [] then
    some (suite.refused "empty_expectations" (suite.named "has no executable expectations"))
  else
    (expectations.zipIdx.findSome? (expectationError suite.suiteId)).map
      (suite.refused "invalid_expectation")

/-- `assert_gx_suite_runnable`, with the error that it raises as its answer. -/
def assertGxSuiteRunnable (suite : SuiteAttributes) :
    Except PyError (Option GxSuiteValidationError) :=
  if suite.executionContract.isNone then
    .ok (some (suite.refused "missing_execution_contract"
      (suite.named "is missing an execution_contract")))
  else do
    let targetIds ← resolvedTargetIds suite.targets
    if targetIds = [] then
      .ok (some (suite.refused "missing_targets"
        (suite.named "is missing resolved execution targets")))
    else
      (suiteExpectations suite.gxSuite).map (refusedExpectation suite)

omit [PyRuntime] [PyNumerals] in
theorem refusedExpectation_eq_none {suite : SuiteAttributes}
    {expectations : List SuiteExpectation} :
    refusedExpectation suite expectations = none ↔ expectations ≠ [] ∧
      expectations.zipIdx.findSome? (expectationError suite.suiteId) = none := by
  rw [refusedExpectation]
  split
  · rename_i h
    exact iff_of_false (Option.some_ne_none _) fun hand => hand.1 h
  · rename_i h
    rw [Option.map_eq_none_iff]
    exact (and_iff_right h).symm

/-- A suite is runnable when it has a contract, a target and an expectation, and each of its
expectations has a type and arguments. -/
theorem assertGxSuiteRunnable_eq_none {suite : SuiteAttributes} :
    assertGxSuiteRunnable suite = .ok none ↔
      suite.executionContract.isSome ∧
        (∃ ids, resolvedTargetIds suite.targets = .ok ids ∧ ids ≠ []) ∧
        ∃ expectations, suiteExpectations suite.gxSuite = .ok expectations ∧ expectations ≠ [] ∧
          expectations.zipIdx.findSome? (expectationError suite.suiteId) = none := by
  rw [assertGxSuiteRunnable]
  split
  · rename_i hcontract
    refine iff_of_false (fun h => by cases h) fun h => ?_
    rw [Option.isNone_iff_eq_none.mp hcontract] at h
    cases h.1
  · rename_i hcontract
    rw [← Option.not_isSome, Bool.not_eq_true', Bool.not_eq_false] at hcontract
    constructor
    · intro h
      obtain ⟨ids, hids, h⟩ := ok_of_bind h
      split at h
      · cases h
      · rename_i hne
        obtain ⟨expectations, hexpectations, hnone⟩ := ok_of_map h
        exact ⟨hcontract, ⟨ids, hids, hne⟩, expectations, hexpectations,
          refusedExpectation_eq_none.mp hnone⟩
    · rintro ⟨_, ⟨ids, hids, hne⟩, expectations, hexpectations, hnone⟩
      rw [hids, ok_bind, if_neg hne, hexpectations]
      exact congrArg Except.ok (refusedExpectation_eq_none.mpr hnone)

end Runnable

/-! ### Versions -/

section Versions

variable [PyRuntime] [PyNumerals]

def GxSuiteValidationError.details (exc : GxSuiteValidationError) : Json :=
  .dict [entry "error" (.text "gx_suite_not_runnable"), entry "reason" (.text exc.reason),
    entry "message" (.scalar (.str exc.message)), entry "suite_id" (.scalar (.str exc.suiteId)),
    entry "suite_version" (optInt exc.suiteVersion)]

/-- What is wrong with one suite: its structure, or else that it is not runnable. -/
def suiteDiagnostics (invalidCode : String) (invalidMessage : Text) (suite : SingleSuiteSnapshot) :
    Except PyError (List ValidationDiagnostic) := do
  let structureErrors ← singleSuiteSnapshotStructureErrors suite
  if structureErrors.isEmpty then
    return (← assertGxSuiteRunnable suite.attributes).toList.map fun exc =>
      diagnostic exc.reason exc.message "suite_snapshot" exc.details
  else
    return [diagnostic invalidCode invalidMessage "suite_snapshot"
      (violationDetails structureErrors)]

/-- The diagnostics of the schedule. -/
def scheduleDiagnostics (scheduledAt : Option Text) : List ValidationDiagnostic :=
  if stripped scheduledAt = [] then
    [diagnostic "missing_schedule_definition" "GX run plan version is missing scheduled_at"
      "schedule_definition" .null]
  else []

/-- The diagnostics of the contract snapshot. In the mode `grouped_scope` it only has to be there. -/
def contractDiagnostics (selectionMode : Text) :
    Option GxExecutionContract → List ValidationDiagnostic
  | none =>
    [diagnostic "missing_execution_contract_snapshot"
      ("GX run plan version is missing the execution contract snapshot required for " ++
        "validation").toList "execution_contract_snapshot" .null]
  | some contract =>
    let violations := validateExecutionContractSnapshot contract
    if selectionMode = "grouped_scope" ∨ violations.isEmpty then []
    else [diagnostic "invalid_execution_contract_snapshot"
      ("GX run plan version contains an invalid execution contract snapshot required for " ++
        "validation").toList "execution_contract_snapshot" (violationDetails violations)]

/-- The diagnostic of a grouped snapshot without a plan. -/
def planDiagnostics (groupedExecutionPlan : Option Dict) : List ValidationDiagnostic :=
  if groupedExecutionPlan.isSome then []
  else [diagnostic "missing_grouped_execution_plan"
    "GX run plan version is missing the grouped execution plan required for validation"
    "suite_snapshot" .null]

def envelopeDiagnostics (item : SingleSuiteSnapshot × ℕ) :
    Except PyError (List ValidationDiagnostic) :=
  suiteDiagnostics "invalid_grouped_suite_snapshot" ("Grouped suite snapshot at index " ++
    (toString item.2).toList ++ " is invalid") item.1

/-- The diagnostics of a grouped snapshot. -/
def groupedDiagnostics (snapshot : VersionValidationSnapshot) :
    Except PyError (List ValidationDiagnostic) :=
  match snapshot.suiteSnapshot with
  | some (.grouped _) =>
    if snapshot.groupedSuiteEnvelopes = [] then
      .ok (planDiagnostics snapshot.groupedExecutionPlan ++
        [diagnostic "missing_grouped_suite_envelopes"
          ("GX run plan version is missing grouped suite envelopes required for " ++
            "validation").toList "suite_snapshot" .null])
    else
      (snapshot.groupedSuiteEnvelopes.zipIdx.mapM envelopeDiagnostics).map fun found =>
        planDiagnostics snapshot.groupedExecutionPlan ++ found.flatten
  | _ => .ok [diagnostic "missing_grouped_suite_snapshot"
      ("GX run plan version is missing the grouped suite snapshot required for " ++
        "validation").toList "suite_snapshot" .null]

/-- The diagnostics of a single suite snapshot. -/
def singleDiagnostics (snapshot : VersionValidationSnapshot) :
    Except PyError (List ValidationDiagnostic) :=
  match snapshot.suiteSnapshot with
  | some (.single suite) => suiteDiagnostics "invalid_suite_snapshot"
      ("GX run plan version contains an invalid suite snapshot required for " ++
        "validation").toList suite
  | _ => .ok [diagnostic "missing_suite_snapshot"
      "GX run plan version is missing the suite snapshot required for validation"
      "suite_snapshot" .null]

def modeDiagnostics (snapshot : VersionValidationSnapshot) :
    Except PyError (List ValidationDiagnostic) :=
  if stripped snapshot.selectionMode = "grouped_scope" then groupedDiagnostics snapshot
  else singleDiagnostics snapshot

/-- `validate_gx_run_plan_version_snapshot`, of the validation snapshot of a version. -/
def validateGxRunPlanVersionSnapshot (snapshot : VersionValidationSnapshot) :
    Except PyError (List ValidationDiagnostic) :=
  (modeDiagnostics snapshot).map fun suites =>
    scheduleDiagnostics snapshot.scheduledAt ++
      contractDiagnostics (stripped snapshot.selectionMode) snapshot.executionContractSnapshot ++
      suites

/-! ### Versions without a diagnostic -/

theorem suiteDiagnostics_eq_nil {invalidCode : String} {invalidMessage : Text}
    {suite : SingleSuiteSnapshot} :
    suiteDiagnostics invalidCode invalidMessage suite = .ok [] ↔
      singleSuiteSnapshotStructureErrors suite = .ok [] ∧
        assertGxSuiteRunnable suite.attributes = .ok none := by
  rw [suiteDiagnostics]
  cases singleSuiteSnapshotStructureErrors suite with
  | error exc => simp
  | ok structureErrors =>
    cases structureErrors with
    | nil =>
      cases assertGxSuiteRunnable suite.attributes with
      | error exc => simp
      | ok refused => cases refused <;> simp [pure, Except.pure]
    | cons violation violations => simp [pure, Except.pure]

omit [PyRuntime] [PyNumerals] in
theorem scheduleDiagnostics_eq_nil {scheduledAt : Option Text} :
    scheduleDiagnostics scheduledAt = [] ↔ stripped scheduledAt ≠ [] := by
  rw [scheduleDiagnostics]
  split <;> simp_all

omit [PyRuntime] [PyNumerals] in
theorem contractDiagnostics_eq_nil {selectionMode : Text} {contract : Option GxExecutionContract} :
    contractDiagnostics selectionMode contract = [] ↔
      ∃ c, contract = some c ∧ (selectionMode ≠ "grouped_scope" → ContractComplete c) := by
  cases contract with
  | none => simp [contractDiagnostics]
  | some c =>
    rw [contractDiagnostics]
    split
    · rename_i h
      refine iff_of_true rfl ⟨c, rfl, fun hmode => ?_⟩
      exact validateExecutionContractSnapshot_eq_nil.mp
        (List.isEmpty_iff.mp (h.resolve_left hmode))
    · rename_i h
      rw [not_or] at h
      refine iff_of_false (List.cons_ne_nil _ _) ?_
      rintro ⟨_, ⟨⟩, hcomplete⟩
      exact h.2 (List.isEmpty_iff.mpr
        (validateExecutionContractSnapshot_eq_nil.mpr (hcomplete h.1)))

/-- The structure of a suite and that it is runnable, as the validator checks them. -/
structure SuiteAccepted (suite : SingleSuiteSnapshot) : Prop where
  fields : singleSuiteSnapshotStructureErrors suite = .ok []
  runnable : assertGxSuiteRunnable suite.attributes = .ok none

theorem singleDiagnostics_eq_nil {snapshot : VersionValidationSnapshot} :
    singleDiagnostics snapshot = .ok [] ↔
      ∃ suite, snapshot.suiteSnapshot = some (.single suite) ∧ SuiteAccepted suite := by
  rw [singleDiagnostics]
  split
  · rename_i suite hsuite
    rw [suiteDiagnostics_eq_nil]
    constructor
    · exact fun h => ⟨suite, hsuite, h.1, h.2⟩
    · rintro ⟨other, hother, h⟩
      rw [hsuite] at hother
      cases hother
      exact ⟨h.fields, h.runnable⟩
  · rename_i hother
    refine iff_of_false (by simp) ?_
    rintro ⟨suite, hsuite, _⟩
    exact hother suite hsuite

/-- A version has no diagnostic when it has a schedule and a contract, and its suites are
accepted. The content of the contract counts where the version is not grouped. -/
theorem validateGxRunPlanVersionSnapshot_eq_nil {snapshot : VersionValidationSnapshot} :
    validateGxRunPlanVersionSnapshot snapshot = .ok [] ↔
      stripped snapshot.scheduledAt ≠ [] ∧
        (∃ contract, snapshot.executionContractSnapshot = some contract ∧
          (stripped snapshot.selectionMode ≠ "grouped_scope" → ContractComplete contract)) ∧
        modeDiagnostics snapshot = .ok [] := by
  rw [← scheduleDiagnostics_eq_nil, ← contractDiagnostics_eq_nil, validateGxRunPlanVersionSnapshot]
  constructor
  · intro h
    obtain ⟨found, hfound, hnil⟩ := ok_of_map h
    obtain ⟨hboth, rfl⟩ := List.append_eq_nil_iff.mp hnil
    obtain ⟨hschedule, hcontract⟩ := List.append_eq_nil_iff.mp hboth
    exact ⟨hschedule, hcontract, hfound⟩
  · rintro ⟨hschedule, hcontract, hfound⟩
    rw [hfound, hschedule, hcontract]
    rfl

end Versions

end RunPlans

end DqMadeEasy
