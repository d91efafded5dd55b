import DqMadeEasy.Approvals.Duties
import DqMadeEasy.Lifecycle.ActivateRule
import DqMadeEasy.Lifecycle.Versions
import DqMadeEasy.RunPlans.UseCases

/-!
# Reviews

The endpoint that reviews an approval. It checks the review, moves the run plan version that the
approval is about, publishes the suite that a repair asks for, and only then asks the approvals
repository, which has the separation of duties. After a deactivation it reverts the suites of the
rule.

The compiler of a rule, the entities of a suite and the page of the rules listing are parameters.
-/

namespace DqMadeEasy

namespace Approvals

namespace Review

open Artifacts Lifecycle Lifecycle.InMemory RunPlans Runs Worker

/-! ### The world of a review -/

/-- The repositories that the endpoint is given. -/
structure ReviewWorld (Content : Type) where
  approvals : Store
  plans : RunPlans.Repository
  rules : InMemory.Repository
  artifacts : Registry Content

variable {Content : Type}

def approvalsPart : Effect.Part (ReviewWorld Content) Store where
  get := ReviewWorld.approvals
  set approvals w := { w with approvals := approvals }
  get_set _ _ := rfl
  set_get _ := rfl

def plansPart : Effect.Part (ReviewWorld Content) RunPlans.Repository where
  get := ReviewWorld.plans
  set plans w := { w with plans := plans }
  get_set _ _ := rfl
  set_get _ := rfl

def rulesPart : Effect.Part (ReviewWorld Content) InMemory.Repository where
  get := ReviewWorld.rules
  set rules w := { w with rules := rules }
  get_set _ _ := rfl
  set_get _ := rfl

def artifactsPart : Effect.Part (ReviewWorld Content) (Registry Content) where
  get := ReviewWorld.artifacts
  set artifacts w := { w with artifacts := artifacts }
  get_set _ _ := rfl
  set_get _ := rfl

/-- What the endpoint calls besides the repositories. -/
structure ReviewServices (Content : Type) where
  hasRequiredScope : List Text → List Text → Bool
  /-- The status tables in force. -/
  overrides : PolicyOverrides
  approvalTransitions : List StatusTransitionDefinition
  /-- The first page of the rules listing. -/
  page : List RuleRecord → List RuleRecord
  /-- `compile_rule_to_intermediate_model` of a rule id, a version id and an expression. -/
  compileRule : Text → Text → Text → Dict
  /-- `build_gx_expectations_for_rule`, with the message of a `GxExpectationBuildError`. -/
  buildExpectations : StoredRule → Dict → Text → Except Text (List Dict)
  /-- `build_gx_row_condition_meta_from_intermediate_model`. -/
  rowConditionMeta : Dict → Except PyError Json
  /-- `build_gx_artifact_envelope_entity`. -/
  buildEnvelope : Dict → Except PyError GxArtifactEnvelope
  /-- `_gx_payload_dict`. -/
  gxPayloadDict : GxArtifactEnvelope → Dict
  /-- `build_gx_artifact_envelope_from_validation_artifact`. -/
  coerceSuite : StoredArtifact Content → Except PyError GxArtifactEnvelope
  /-- `build_validation_artifact_envelope_from_gx_artifact`. -/
  artifactOfSuite : GxArtifactEnvelope → Except PyError (ArtifactEnvelope Content)
  /-- `compiledFrom.ruleIds` of an artifact. -/
  ruleIds : Content → List Text
  hashPayload : StoredArtifact Content → Text

/-- A request to the endpoint, and what the clock shows. -/
structure ReviewCommand where
  approvalId : Text
  payload : Dict
  actorId : Option Text
  grantedScopes : List Text
  utcNow : Datetime
  nowIso : Text
  timestamp : Text
  now : Instant

/-- An exception of the rules or artifacts repository. -/
def raisedBy : RepositoryError → PyError
  | .valueError message => valueError message
  | .lookupError message => .mk .exception "builtins" "LookupError" message none none
  | .keyError key => .builtin "KeyError" key
  | .indexError => .builtin "IndexError" "list index out of range"
  | .nameError name => .builtin "NameError" ("name '" ++ name ++ "' is not defined")

def methodEffect {σ α : Type} (method : σ → Except RepositoryError α × σ) : Effect σ PyError α :=
  Effect.ofState fun state => ((method state).1.mapError raisedBy, (method state).2)

/-- `except PermissionError`. -/
def forbidding (exc : PyError) : ApiError :=
  if exc.className = "PermissionError" then httpError 403 exc.message else .raised exc

/-- `HTTPException(422, {"error": …, "message": …, **rest})`. -/
def unprocessable (error : String) (message : Text) (rest : Dict) : ApiError :=
  .http 422 (entry "error" (.text error) :: entry "message" (.scalar (.str message)) :: rest)

/-! ### Request types and statuses -/

section Statuses

variable [PyRuntime] [PyNumerals]

/-- The allowed values of `approval.request_type`. -/
def allowedRequestTypes : List Text :=
  ["activation", "deactivation", "gx_suite_repair"].map String.toList

def normalizeApprovalRequestType (requestType : Text) : Except ApiError Text :=
  let normalized := normalizeRequestType (.scalar (.str requestType))
  if normalized ∈ allowedRequestTypes then .ok normalized
  else .error (httpError 422 ("request_type must be one of " ++
    Text.join ", " allowedRequestTypes))

/-- `canonicalize_status(entity="approval", status=str(payload.get("status") or ""))`. -/
def requestedStatus (payload : Dict) : Text :=
  canonicalizeStatus (some ((payload.get "status").orElse (.text "")).str)

omit [PyRuntime] [PyNumerals] in
def camelCaseApprovalKeys : List String :=
  ["ruleId", "effectiveStatus", "gxRunPlanId", "gxRunPlanVersionId", "requestType", "workspaceId",
    "requesterId", "requestedAt", "effectiveAt", "reviewedBy", "reviewedAt"]

omit [PyRuntime] [PyNumerals] in
/-- `reject_camel_case_approval_keys`. -/
def rejectCamelCaseKeys (payload : Dict) (context : String) : Except ApiError Unit :=
  match (camelCaseApprovalKeys.map String.toList).filter fun key => payload.contains key with
  | [] => .ok ()
  | offending => .error (httpError 422 (context.toList ++ " must use snake_case keys: " ++
      Text.join ", " offending))

omit [PyNumerals] in
/-- `derive_approval_rule_status` of a row that is there. -/
def deriveApprovalRuleStatus (row : RuleRecord) (approvals : List Approval) : Text :=
  let rowStatus := canonicalizeStatusValue .rule row.lastApprovalStatus
  if row.removedAt.isSome then "removed"
  else if row.active then "activated"
  else if rowStatus ∈ ["deactivated", "removed", "recovered"].map String.toList then rowStatus
  else match (approvals.reverse.map fun approval =>
      canonicalizeStatusValue .rule (some approval.status)).find? fun status => status ≠ [] with
    | some status => status
    | none => if rowStatus = [] then "draft" else rowStatus

variable (S : ReviewServices Content)

omit [PyNumerals] in
/-- `is_transition_allowed` of an approval. -/
def isApprovalTransitionAllowed (grantedScopes : List Text) (fromStatus toStatus : Text) : Bool :=
  (transitionRow S.approvalTransitions fromStatus toStatus).any fun row =>
    row.requiredAnyScopes.isEmpty || S.hasRequiredScope grantedScopes row.requiredAnyScopes

omit [PyRuntime] [PyNumerals] in
/-- `Transition '…' -> '…' is not allowed`. -/
def notAllowed (fromStatus toStatus : Text) : ApiError :=
  httpError 409 ("Transition '" ++ fromStatus ++ "' -> '" ++ toStatus ++
    "' is not allowed")

omit [PyNumerals] in
/-- What a review needs of the status of its rule. -/
def checkRuleStatus (grantedScopes : List Text) (requestType requested current : Text) :
    Except ApiError Unit :=
  let allowed := fun toStatus : Text =>
    isTransitionAllowed S.hasRequiredScope S.overrides .rule current toStatus grantedScopes
  if requestType = "gx_suite_repair" then
    if requested = "approved" ∧ current ≠ "activated" then
      .error (httpError 409
        "gx_suite_repair can only be approved while the rule is activated")
    else .ok ()
  else if requestType = "deactivation" then
    if requested = "approved" ∧ current ≠ "deactivated" ∧
        allowed "deactivated" = false then
      .error (notAllowed current "deactivated")
    else .ok ()
  else if current ≠ requested ∧ allowed requested = false then .error (notAllowed current requested)
  else .ok ()

/-! ### What a review checks before it writes -/

/-- A change of a run plan version. -/
structure PlanChange where
  runPlanId : Text
  runPlanVersionId : Text
  target : GovernanceState

/-- What the checks found. -/
structure Checked where
  existing : Approval
  requested : Text
  requestType : Text
  ruleId : Text
  currentRuleStatus : Option Text
  planChange : Option PlanChange

omit [PyRuntime] [PyNumerals] in
/-- The state that a review moves a version from, and the one it moves it to. -/
def planMove (requested requestType : Text) : Option (GovernanceState × GovernanceState) :=
  if requested = "approved" then
    if requestType = "activation" then
      some (.activationRequested, .approvedPendingActivation)
    else if requestType = "deactivation" then some (.deactivationRequested, .deactivated)
    else none
  else if requested = "rejected" then
    if requestType = "activation" then some (.activationRequested, .inactive)
    else if requestType = "deactivation" then some (.deactivationRequested, .active)
    else none
  else none

omit [PyRuntime] [PyNumerals] in
/-- The change of the version that an approval names. -/
def checkPlan (plans : RunPlans.Repository) (existing : Approval) (requested requestType : Text) :
    Except ApiError (Option PlanChange) := do
  let runPlanId := strippedOr existing.gxRunPlanId
  let versionId := strippedOr existing.gxRunPlanVersionId
  if runPlanId = [] ∨ versionId = [] then .ok none
  else
    let plan ← (plans.getPlan runPlanId).elim (.error (httpError 404
      ("GX run plan '" ++ runPlanId ++ "' not found"))) .ok
    let version ← getVersionOr404 plan versionId
    match planMove requested requestType with
    | none => .ok none
    | some (source, target) =>
      if version.governanceState = source.text then .ok (some ⟨runPlanId, versionId, target⟩)
      else .error (notAllowed version.governanceState target.text)

omit [PyNumerals] in
/-- The status of the rule of an approval, where the review asks for it. -/
def reviewedRuleStatus (w : ReviewWorld Content) (ruleId requested : Text) : Option Text :=
  if ruleId = [] ∨ requested ∉ ["approved", "rejected"].map String.toList then none
  else ((S.page (w.rules.listRules none true (some false))).find? fun row => row.id = ruleId).map
    fun row => deriveApprovalRuleStatus row
      ((w.approvals.approvals.map Prod.snd).filter fun approval => approval.ruleId = ruleId)

/-- The checks of a review that asks for a status. -/
def checkRequested (w : ReviewWorld Content) (grantedScopes : List Text) (existing : Approval)
    (requested : Text) : Except ApiError Checked := do
  let requestType ← normalizeApprovalRequestType existing.requestType
  let current := canonicalizeStatus (some existing.status)
  if current ≠ requested ∧
      isApprovalTransitionAllowed S grantedScopes current requested = false then
    .error (notAllowed current requested)
  else
    let ruleId := Text.strip existing.ruleId
    let currentRuleStatus := reviewedRuleStatus S w ruleId requested
    currentRuleStatus.elim (.ok ()) (checkRuleStatus S grantedScopes requestType requested)
    let planChange ← checkPlan w.plans existing requested requestType
    return ⟨existing, requested, requestType, ruleId, currentRuleStatus, planChange⟩

/-- What the endpoint checks before it writes. -/
def checkReview (command : ReviewCommand) (w : ReviewWorld Content) : Except ApiError Checked :=
  if command.actorId.getD [] = [] then .error (httpError 401 "Not authenticated")
  else do
    rejectCamelCaseKeys command.payload "Approval update payload"
    if command.payload.contains "effective_at" = true then
      .error (httpError 409 "effective_at cannot be modified after creation")
    else
      let existing ← (w.approvals.find? command.approvalId).elim
        (.error (httpError 404 "Not found")) .ok
      let requested := requestedStatus command.payload
      if requested = [] then
        return ⟨existing, [], [], Text.strip existing.ruleId, none, none⟩
      else
        checkRequested S w ((command.grantedScopes.map Text.strip).filter (· ≠ [])) existing
          requested

/-! ### Run plans -/

omit [PyRuntime] [PyNumerals] in
/-- `transition_plan_version` or `deactivate_plan`. -/
def PlanChange.method (change : PlanChange) (actorId : Option Text) :
    Effect RunPlans.Repository PyError Plan :=
  if change.target = .deactivated then
    deactivatePlan change.runPlanId {
      runPlanVersionId := change.runPlanVersionId
      deactivatedBy := actorId
      correlationId := none }
  else transitionPlanVersion change.runPlanId {
    runPlanVersionId := change.runPlanVersionId
    targetState := change.target.text
    updatedBy := actorId
    effectiveFrom := none
    correlationId := none }

omit [PyRuntime] [PyNumerals] in
/-- The change of the run plan version, if there is one. -/
def applyPlanChange (actorId : Option Text) :
    Option PlanChange → Effect (ReviewWorld Content) ApiError Unit
  | none => pure ()
  | some change => do
    let _ ← plansPart.on .raised (change.method actorId)
    pure ()

/-! ### Suite repairs -/

def normalizeApprovalStringList : Json → Except ApiError (List Text)
  | .scalar .none => .ok []
  | .list items => .ok ((items.map Json.strippedText).filter (· ≠ []))
  | _ => .error (httpError 422 "suite_repair.data_object_version_ids must be a list")

/-- `(max_version + 1) if max_version > 0 else initial`, over the history of a suite. -/
def nextSuiteVersion (history : List ArtifactStatusHistory) (initial : ℤ) : ℤ :=
  let maxVersion := (history.map ArtifactStatusHistory.version).foldl max 0
  if 0 < maxVersion then maxVersion + 1 else initial

/-- What the audit trail says about the repair that was asked for. -/
structure SuiteRepair where
  dataObjectId : Option Text
  datasetId : Option Text
  dataProductId : Option Text
  dataObjectVersionIds : List Text
  primaryKeyFields : List Text

/-- The repair that the creation of the approval asked for. -/
def readSuiteRepair (audit : List AuditEvent) (approvalId : Text) : Except ApiError SuiteRepair := do
  let created ← (audit.find? fun event =>
    event.approvalId = approvalId ∧ event.action = "created").elim
      (.error (httpError 500 "Approval audit details unavailable")) .ok
  let suiteRepair ← (created.details.get "suite_repair").asDict?.elim
    (.error (httpError 422 "suite_repair details missing for gx_suite_repair")) .ok
  let versionIds ← normalizeApprovalStringList (suiteRepair.get "data_object_version_ids")
  let primaryKeyFields ← normalizeApprovalStringList (suiteRepair.get "primary_key_fields")
  let repair : SuiteRepair := {
    dataObjectId := optionalText (suiteRepair.get "data_object_id")
    datasetId := optionalText (suiteRepair.get "dataset_id")
    dataProductId := optionalText (suiteRepair.get "data_product_id")
    dataObjectVersionIds := versionIds
    primaryKeyFields := primaryKeyFields }
  if repair.dataObjectId = none ∧ repair.datasetId = none ∧ repair.dataProductId = none then
    .error (httpError 422 "suite_repair missing assignment scope")
  else if versionIds = [] then
    .error (httpError 422 "suite_repair.data_object_version_ids must not be empty")
  else .ok repair

/-- The model and the expectations of the rule that a repair compiles. -/
def compileRepair (rules : InMemory.Repository) (ruleId : Text) :
    Except ApiError (StoredRule × Text × Dict × List Dict) := do
  let versionId := Text.strip (((rules.find? ruleId).bind fun r =>
    r.versions.head?.map VersionRow.id).getD [])
  if versionId = [] then .error (httpError 409 "Rule has no current version")
  let r ← (getRuleById rules ruleId).elim
    (.error (httpError 404 ("Rule '" ++ ruleId ++ "' not found"))) .ok
  let model := S.compileRule ruleId versionId (Text.strip r.entity.expression)
  let ids := [entry "rule_id" (.scalar (.str ruleId)),
    entry "rule_version_id" (.scalar (.str versionId))]
  if ((model.find? "compilable").getD (.scalar (.bool true))).truthy = false then
    .error (unprocessable "rule_not_compilable"
      "Rule cannot be compiled; repair suite aborted" ids)
  let expectations ← (S.buildExpectations r model ((model.get "artifactKey").orElse
    (.text "")).str).mapError fun message => unprocessable "gx_expectations_build_failed" message ids
  if expectations = [] then
    .error (unprocessable "gx_expectations_empty"
      "GX expectation translation produced no expectations" ids)
  return (r, versionId, model, expectations)

/-- `str(value or "").strip() or None`, as the value of a key. -/
def textOrNull (value : Json) : Json := optText (optionalText value)

/-- The traceability of a repaired suite. -/
def repairTraceability (repair : SuiteRepair) (ruleId versionId suiteId : Text) (suiteVersion : ℤ)
    (model : Dict) (r : StoredRule) : Dict :=
  let filter := (model.get "filter").dictOrEmpty
  let source := optionalText ((optText (optionalText (filter.get "source"))).orElse
    (.scalar (.str r.entity.expression)))
  [entry "ruleId" (.scalar (.str ruleId)), entry "ruleVersionId" (.scalar (.str versionId)),
    entry "gxSuiteId" (.scalar (.str suiteId)), entry "gxSuiteVersion" (.int suiteVersion),
    entry "dataObjectVersionId" (match repair.dataObjectVersionIds with
      | [id] => .scalar (.str id)
      | _ => .null),
    entry "sourceRuleExpression" (optText source),
    entry "compiledExpression" (textOrNull (filter.get "normalized")),
    entry "artifactKey" (textOrNull (model.get "artifactKey"))]

/-- The meta data of a repaired suite. -/
def repairMeta (ruleId approvalId : Text) (model : Dict) (rowCondition : Json) : Dict :=
  [entry "ruleId" (.scalar (.str ruleId)), entry "compilerVersion" (model.get "compilerVersion"),
    entry "artifactKey" (model.get "artifactKey"), entry "intermediateModel" (.dict model),
    entry "gxRowCondition" rowCondition, entry "repair" (.scalar (.bool true)),
    entry "repairApprovalId" (.scalar (.str approvalId))]

/-- The suite that a repair publishes. -/
def repairedSuite (command : ReviewCommand) (repair : SuiteRepair) (ruleId versionId : Text)
    (suiteVersion : ℤ) (r : StoredRule) (model : Dict) (expectations : List Dict)
    (rowCondition : Json) : Dict :=
  let suiteId := "gx_" ++ ruleId
  let str (t : Text) : Json := .scalar (.str t)
  [entry "suiteId" (str suiteId), entry "suiteVersion" (.int suiteVersion),
    entry "artifactVersion" (.text "v1"),
    entry "assignmentScope" (.dict [entry "dataObjectId" (optText repair.dataObjectId),
      entry "datasetId" (optText repair.datasetId),
      entry "dataProductId" (optText repair.dataProductId)]),
    entry "resolvedExecutionScope" (.dict
      [entry "dataObjectVersionIds" (texts repair.dataObjectVersionIds)]),
    entry "gxSuite" (.dict [
      entry "expectation_suite_name" (str ("dq_" ++ ruleId ++ "_v" ++
        PyValue.toText (.int suiteVersion))),
      entry "expectations" (.list (expectations.map .dict)),
      entry "meta" (.dict (repairMeta ruleId command.approvalId model rowCondition))]),
    entry "compiledFrom" (.dict [entry "ruleIds" (texts [ruleId]),
      entry "compilerVersion" (str ((model.get "compilerVersion").orElse (.text "unknown")).str),
      entry "generatedAt" (str command.nowIso)]),
    entry "executionHints" (.dict [entry "recommendedEngine" (.text "pyspark"),
      entry "primaryKeyFields" (texts repair.primaryKeyFields)]),
    entry "executionContract" (.dict [entry "engineTarget" (.text "pyspark"),
      entry "executionShape" (.text "single_object"),
      entry "traceability" (.dict
        (repairTraceability repair ruleId versionId suiteId suiteVersion model r))]),
    entry "savedBy" (optText command.actorId), entry "sourcePipeline" (.text "rule-approvals")]

/-- A suite that is ready to be published, and what the audit trail is told about it. -/
structure PreparedRepair (Content : Type) where
  artifact : ArtifactEnvelope Content
  details : Dict

/-- What a repair does before it saves the suite. -/
def prepareRepair (command : ReviewCommand) (ruleId : Text) (w : ReviewWorld Content) :
    Except ApiError (PreparedRepair Content) := do
  let repair ← readSuiteRepair w.approvals.audit command.approvalId
  let (r, versionId, model, expectations) ← compileRepair S w.rules ruleId
  let suiteId := "gx_" ++ ruleId
  let suiteVersion := nextSuiteVersion (w.artifacts.listArtifactStatusHistory suiteId) 1
  let rowCondition ← (S.rowConditionMeta model).mapError forbidding
  let envelope ← (S.buildEnvelope (repairedSuite command repair ruleId versionId suiteVersion r model
    expectations rowCondition)).mapError forbidding
  let artifact ← (S.artifactOfSuite envelope).mapError forbidding
  return {
    artifact := artifact
    details := [entry "rule_id" (.scalar (.str ruleId)), entry "suite_id" (.scalar (.str suiteId)),
      entry "suite_version" (.int suiteVersion), entry "data_object_id" (optText repair.dataObjectId),
      entry "dataset_id" (optText repair.datasetId),
      entry "data_product_id" (optText repair.dataProductId),
      entry "data_object_version_ids" (texts repair.dataObjectVersionIds)] }

omit [PyRuntime] [PyNumerals] in
/-- `append_audit_event`. -/
def audited (command : ReviewCommand) (action : String) (actorId : Option Text) (details : Dict) :
    Effect (ReviewWorld Content) ApiError Unit :=
  approvalsPart.on .raised (appendAuditEvent {
    approvalId := command.approvalId
    action := action
    actorId := actorId
    timestamp := command.timestamp
    details := details })

omit [PyRuntime] [PyNumerals] in
/-- `save_artifact` by the reviewer. -/
def saveSuite (command : ReviewCommand) (artifact : ArtifactEnvelope Content)
    (status sourcePipeline : String) : Effect (Registry Content) PyError (StoredArtifact Content) :=
  methodEffect (Registry.saveArtifact S.hashPayload command.now artifact status.toList none
    command.actorId (some sourcePipeline.toList))

def executeGxSuiteRepair (command : ReviewCommand) (ruleId : Text) :
    Effect (ReviewWorld Content) ApiError Unit := do
  let w ← get
  let prepared ← Effect.ofExcept (prepareRepair S command ruleId w)
  let _ ← artifactsPart.on forbidding
    (saveSuite S command prepared.artifact "active" "rule-approvals")
  audited command "gx_suite.repair.completed" command.actorId prepared.details

/-! ### The decision -/

omit [PyRuntime] [PyNumerals] in
/-- What an approval of a deactivation needs of its `effective_at`. -/
def checkEffectiveAt [PyDatetime] (command : ReviewCommand) (checked : Checked) :
    Except ApiError Unit :=
  let effectiveAt := checked.existing.effectiveAt.getD []
  if checked.requestType ≠ "deactivation" ∨ effectiveAt = [] then .ok ()
  else match Datetime.ofText effectiveAt with
    | none => .error (httpError 422 "effective_at must be a valid RFC3339 timestamp")
    | some parsed =>
      if parsed.aware = false then
        .error (httpError 422 "effective_at must include a timezone offset")
      else if command.utcNow.microseconds < parsed.microseconds then
        .error (.http 503 [entry "error" (.text "downstream_unavailable"),
          entry "service" (.text "lifecycle-scheduler"),
          entry "message" (.text "lifecycle-scheduler is unavailable")])
      else .ok ()

omit [PyRuntime] [PyNumerals] in
/-- `Approval effective status '…' does not match request type '…'`. -/
def statusMismatch (effectiveStatus : Option Text) (requestType : Text) : ApiError :=
  httpError 409 ("Approval effective status '" ++ effectiveStatus.getD "None" ++
    "' does not match request type '" ++ requestType ++ "'")

omit [PyRuntime] [PyNumerals] in
/-- What an approval of a deactivation needs of the effective status that was asked for. -/
def checkEffectiveStatus (checked : Checked) : Except ApiError Unit :=
  let effectiveStatus := strippedOrNone checked.existing.effectiveStatus
  if checked.ruleId ≠ [] ∧ checked.requestType = "deactivation" ∧
      effectiveStatus ≠ none ∧ effectiveStatus ≠ some "deactivated".toList then
    .error (statusMismatch effectiveStatus checked.requestType)
  else .ok ()

/-- An approval that publishes a suite. -/
def Checked.Repairs (checked : Checked) : Prop :=
  checked.requestType = "gx_suite_repair" ∧ checked.ruleId ≠ []

instance (checked : Checked) : Decidable checked.Repairs := inferInstanceAs (Decidable (_ ∧ _))

/-- What an approval does before it asks the repository. -/
def prepareDecision [PyDatetime] (command : ReviewCommand) (checked : Checked) :
    Effect (ReviewWorld Content) ApiError Unit := do
  if checked.requested = "approved" then
    Effect.ofExcept (checkEffectiveAt command checked)
    if checked.Repairs then executeGxSuiteRepair S command checked.ruleId
    Effect.ofExcept (checkEffectiveStatus checked)

/-- `repository.update_approval`, which may find no approval. -/
def writeDecision (command : ReviewCommand) : Effect (ReviewWorld Content) ApiError Approval := do
  let updated ← approvalsPart.on forbidding
    (Approvals.updateApproval ⟨[], command.timestamp⟩ command.approvalId command.payload
      command.actorId)
  Effect.ofExcept (updated.elim (.error (httpError 404 "Not found")) .ok)

/-! ### Reversions -/

/-- What the reversions after a deactivation share. -/
structure Deactivation where
  ruleId : Text
  ruleOwnerId : Text
  requesterId : Text
  allRules : List RuleRecord

omit [PyRuntime] [PyNumerals] in
/-- `activated_by_id.get(rid) is True`. -/
def Deactivation.activated (d : Deactivation) (ruleId : Text) : Bool :=
  (d.allRules.reverse.find? fun row => row.id = ruleId).any fun row =>
    row.active && row.removedAt.isNone

def Deactivation.remainingRuleIds (d : Deactivation) (suitePayload : Dict) : List Text :=
  (((((suitePayload.get "compiledFrom").dictOrEmpty.get "ruleIds").asList?.getD []).map fun item =>
    Text.strip item.str).filter (· ≠ [])).filter fun id => decide (id ≠ d.ruleId) && d.activated id

omit [PyNumerals] in
/-- `f"_v{version}"`. -/
def versionSuffix (version : ℤ) : Text := "_v" ++ PyValue.toText (.int version)

omit [PyNumerals] in
/-- The suite under the name of its next version. -/
def renamedSuite (currentVersion nextVersion : ℤ) (gxSuite : Dict) : Dict :=
  match gxSuite.get "expectation_suite_name" with
  | .scalar (.str name) =>
    if (versionSuffix currentVersion).isSuffixOf name then
      gxSuite.insert "expectation_suite_name" (.scalar (.str
        (name.take (name.length - (versionSuffix currentVersion).length) ++
          versionSuffix nextVersion)))
    else gxSuite
  | _ => gxSuite

omit [PyRuntime] [PyNumerals] in
def markedEmpty (gxSuite : Dict) : Dict :=
  gxSuite.insert "meta" (.dict (Dict.merge (gxSuite.get "meta").dictOrEmpty
    [entry "suiteEmpty" (.scalar (.bool true)),
      entry "suiteEmptyReason" (.text "rule_deactivated")]))

/-- The execution contract of a suite that keeps some rules. -/
def revertedContract (remaining : List Text) (nextVersion : ℤ) (contract : Dict) : Json :=
  let traceability := (contract.get "traceability").dictOrEmpty
  let traceRuleId := ((traceability.get "ruleId").orElse (.text "")).str
  if traceRuleId ≠ [] ∧ traceRuleId ∈ remaining then
    .dict (contract.insert "traceability"
      (.dict (traceability.insert "gxSuiteVersion" (.int nextVersion))))
  else .null

/-- `new_suite`: without rules, or with those that remain. -/
def revertedSuite (nowIso : Text) (remaining : List Text) (currentVersion nextVersion : ℤ)
    (suitePayload : Dict) : Dict :=
  let compiledFrom := (((suitePayload.get "compiledFrom").dictOrEmpty.insert "ruleIds"
    (texts remaining)).insert "generatedAt" (.scalar (.str nowIso)))
  let numbered := (suitePayload.insert "suiteVersion" (.int nextVersion)).insert
    "compiledFrom" (.dict compiledFrom)
  let named := match numbered.get "gxSuite" with
    | .dict gxSuite => numbered.insert "gxSuite" (.dict (renamedSuite currentVersion
        nextVersion (if remaining = [] then markedEmpty gxSuite else gxSuite)))
    | _ => numbered
  if remaining = [] then named.insert "executionContract" .null
  else match named.get "executionContract" with
    | .dict contract =>
      named.insert "executionContract" (revertedContract remaining nextVersion contract)
    | _ => named

/-- An entry of the audit trail of the approval. -/
structure Notice where
  action : String
  actorId : Option Text
  details : Dict

omit [PyNumerals] in
/-- The notices of a suite that is left without rules. -/
def emptyNotices (command : ReviewCommand) (d : Deactivation) (suiteId : Text)
    (currentVersion nextVersion : ℤ) : List Notice :=
  let str (t : Text) : Json := .scalar (.str t)
  let registered : Notice := ⟨"gx_suite.empty.registered", command.actorId,
    [entry "rule_id" (str d.ruleId), entry "suite_id" (str suiteId),
      entry "from_suite_version" (.int currentVersion),
      entry "to_suite_version" (.int nextVersion), entry "status" (.text "disabled")]⟩
  if d.ruleOwnerId = [] ∨ d.requesterId = [] then
    [registered, ⟨"notification.gx_suite_empty.missing_recipient", command.actorId,
      [entry "rule_id" (str d.ruleId), entry "suite_id" (str suiteId),
        entry "suite_version" (.int nextVersion),
        entry "rule_owner_id" (optText (strippedOrNone (some d.ruleOwnerId))),
        entry "deactivation_requester_id" (optText (strippedOrNone (some d.requesterId)))]⟩]
  else
    let message := "GX suite '" ++ suiteId ++
      "' became empty after deactivation of rule '" ++ d.ruleId ++
      "'. A disabled suite version " ++ PyValue.toText (.int nextVersion) ++
      " was registered."
    let recipients := if d.requesterId = d.ruleOwnerId then [d.ruleOwnerId]
      else [d.ruleOwnerId, d.requesterId]
    registered :: recipients.map fun recipient => ⟨"notification.gx_suite_empty", some recipient,
      [entry "message" (str message), entry "recipient_id" (str recipient),
        entry "sender_id" (optText command.actorId), entry "rule_id" (str d.ruleId),
        entry "suite_id" (str suiteId), entry "suite_version" (.int nextVersion),
        entry "severity" (.text "warning")]⟩

omit [PyRuntime] [PyNumerals] in
/-- The notice of a suite that keeps some rules. -/
def revertedNotice (command : ReviewCommand) (d : Deactivation) (suiteId : Text)
    (currentVersion nextVersion : ℤ) (remaining : List Text) : Notice where
  action := "gx_suite.reversion.completed"
  actorId := command.actorId
  details := [entry "rule_id" (.scalar (.str d.ruleId)),
    entry "suite_id" (.scalar (.str suiteId)), entry "from_suite_version" (.int currentVersion),
    entry "to_suite_version" (.int nextVersion), entry "remaining_rule_ids" (texts remaining),
    entry "remaining_rule_count" (.int remaining.length), entry "status" (.text "active")]

omit [PyRuntime] [PyNumerals] in
/-- `_coerce_gx_suite_from_validation_artifact`. A `ValidationError` is a `ValueError`. -/
def coerceGxSuite (suite : StoredArtifact Content) : Except ApiError GxArtifactEnvelope :=
  (S.coerceSuite suite).mapError fun exc =>
    if exc.className = "ValueError" ∨ exc.className = "ValidationError" then
      unprocessable "unsupported_engine_type" exc.message []
    else .raised exc

omit [PyRuntime] [PyNumerals] in
def revertedArtifact (newSuite : Dict) : Except ApiError (ArtifactEnvelope Content) := do
  let envelope ← (S.buildEnvelope newSuite).mapError .raised
  (S.artifactOfSuite envelope).mapError .raised

/-- What the reversion of a suite does. -/
structure Reversion where
  suiteId : Text
  currentVersion : ℤ
  nextVersion : ℤ
  remaining : List Text
  newSuite : Dict

/-- The reversion of a suite with an id, at the history of a registry. -/
def reversionOf (command : ReviewCommand) (d : Deactivation) (registry : Registry Content)
    (typed : GxArtifactEnvelope) : Reversion :=
  let suiteId := Text.strip typed.suiteId
  let currentVersion : ℤ := typed.suiteVersion
  let nextVersion := nextSuiteVersion (registry.listArtifactStatusHistory suiteId)
    (currentVersion + 1)
  let suitePayload := S.gxPayloadDict typed
  let remaining := d.remainingRuleIds suitePayload
  { suiteId := suiteId
    currentVersion := currentVersion
    nextVersion := nextVersion
    remaining := remaining
    newSuite := revertedSuite command.nowIso remaining currentVersion nextVersion suitePayload }

omit [PyNumerals] in
/-- What the audit trail is told of a reversion. -/
def Reversion.notices (r : Reversion) (command : ReviewCommand) (d : Deactivation) : List Notice :=
  if r.remaining = [] then emptyNotices command d r.suiteId r.currentVersion r.nextVersion
  else [revertedNotice command d r.suiteId r.currentVersion r.nextVersion r.remaining]

omit [PyRuntime] [PyNumerals] in
def Reversion.status (r : Reversion) : String :=
  if r.remaining = [] then "disabled" else "active"

omit [PyRuntime] [PyNumerals] in
/-- The registry before the reversion is saved: a suite that no rule remains of is disabled. -/
def Reversion.disable (r : Reversion) (command : ReviewCommand) (d : Deactivation)
    (registry : Registry Content) : Registry Content :=
  if r.remaining = [] then
    registry.patchArtifactStatus command.now r.suiteId r.currentVersion "disabled"
      command.actorId
      (some ("Rule '" ++ d.ruleId ++ "' deactivated; no remaining activated rules"))
  else registry

/-- The reversion of a suite: the body of the loop. -/
def revertSuite (command : ReviewCommand) (d : Deactivation) (suite : StoredArtifact Content) :
    Effect (ReviewWorld Content) ApiError Unit := do
  let typed ← Effect.ofExcept (coerceGxSuite S suite)
  if Text.strip typed.suiteId = [] then pure ()
  else
    let w ← get
    let r := reversionOf S command d w.artifacts typed
    artifactsPart.on ApiError.raised (Effect.ofState fun registry =>
      (.ok (), r.disable command d registry))
    let artifact ← Effect.ofExcept (revertedArtifact S r.newSuite)
    let _ ← artifactsPart.on ApiError.raised
      (saveSuite S command artifact r.status "rule-lifecycle")
    (r.notices command d).foldlM
      (fun _ notice => audited command notice.action notice.actorId notice.details) ()

/-! ### The endpoint -/

omit [PyRuntime] [PyNumerals] in
/-- What the reversions read of the rules after the deactivation. -/
def deactivationOf (checked : Checked) (ruleId : Text) (rules : InMemory.Repository) :
    Deactivation where
  ruleId := ruleId
  ruleOwnerId := (getRuleById rules ruleId).elim [] fun r => Text.strip r.entity.createdByUserId
  requesterId := strippedOr checked.existing.requesterId
  allRules := S.page (rules.listRules none true (some false))

omit [PyRuntime] [PyNumerals] in
def activeSuites (ruleId : Text) (registry : Registry Content) : List (StoredArtifact Content) :=
  registry.listArtifactsForRule S.ruleIds ruleId "active"

/-- The reversion of all active suites of a rule that was deactivated. -/
def revertSuites (command : ReviewCommand) (checked : Checked) (ruleId : Text) :
    Effect (ReviewWorld Content) ApiError Unit := do
  let w ← get
  (activeSuites S ruleId w.artifacts).foldlM
    (fun _ suite => revertSuite S command (deactivationOf S checked ruleId w.rules) suite) ()

/-- `record_rule_status_transition` after the review of an activation. -/
def recordReview (command : ReviewCommand) (checked : Checked) (requestType : Text) :
    Effect (ReviewWorld Content) ApiError Unit :=
  match checked.currentRuleStatus with
  | none => pure ()
  | some current => do
    if checked.ruleId ≠ [] ∧ checked.requested ∈ ["approved", "rejected"].map String.toList ∧
        requestType ∉ ["deactivation", "gx_suite_repair"].map String.toList then
      let _ ← rulesPart.on .raised (methodEffect (recordRuleStatusTransition S.overrides
        checked.ruleId command.now (some current) checked.requested command.actorId
        (some "Approval reviewed")))
      pure ()

omit [PyRuntime] [PyNumerals] in
/-- `a or b` of texts. -/
def textOr (a b : Text) : Text := if a = [] then b else a

omit [PyRuntime] [PyNumerals] in
/-- The effective status that a deactivation is checked against after the review. -/
def finalEffectiveStatus (updated existing : Approval) (requestType : Text) : Option Text :=
  strippedOrNone (some (textOr (updated.effectiveStatus.getD [])
    (textOr (existing.effectiveStatus.getD []) ((deriveEffectiveStatus requestType).getD []))))

/-- The deactivation of the rule of an approved request. -/
def deactivateReviewed (command : ReviewCommand) (checked : Checked) (updated : Approval)
    (requestType ruleId : Text) : Effect (ReviewWorld Content) ApiError Unit := do
  let effectiveStatus := finalEffectiveStatus updated checked.existing requestType
  Effect.ofExcept (if effectiveStatus = some "deactivated".toList then .ok ()
    else .error (statusMismatch effectiveStatus requestType))
  let _ ← rulesPart.on .raised (methodEffect (deactivateRule S.overrides ruleId command.now))
  revertSuites S command checked ruleId

/-- What follows the write of the decision. -/
def concludeReview (command : ReviewCommand) (checked : Checked) (updated : Approval) :
    Effect (ReviewWorld Content) ApiError Unit := do
  let requestType ← Effect.ofExcept (normalizeApprovalRequestType checked.existing.requestType)
  recordReview S command checked requestType
  if checked.requested = "approved" then
    let requestType ← Effect.ofExcept (normalizeApprovalRequestType
      (textOr updated.requestType checked.existing.requestType))
    let ruleId := Text.strip (textOr updated.ruleId checked.existing.ruleId)
    if requestType = "deactivation" ∧ ruleId ≠ [] then
      deactivateReviewed S command checked updated requestType ruleId

/-- The decision is written, and what follows it is done. -/
def settleReview (command : ReviewCommand) (checked : Checked) :
    Effect (ReviewWorld Content) ApiError Approval := do
  let updated ← writeDecision command
  concludeReview S command checked updated
  return updated

/-- What a review does after the change of the run plan. -/
def decideReview [PyDatetime] (command : ReviewCommand) (checked : Checked) :
    Effect (ReviewWorld Content) ApiError Approval := do
  prepareDecision S command checked
  settleReview S command checked

/-- `update_approval`, the endpoint. -/
def updateApproval [PyDatetime] (command : ReviewCommand) :
    Effect (ReviewWorld Content) ApiError Approval := do
  let before ← get
  let checked ← Effect.ofExcept (checkReview S command before)
  applyPlanChange command.actorId checked.planChange
  decideReview S command checked

end Statuses

end Review

end Approvals

end DqMadeEasy
