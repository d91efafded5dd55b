import DqMadeEasy.Approvals.Review

/-!
# Requests

The endpoint that creates an approval. It checks what is asked for against the status that the row
and the approvals of the rule amount to, creates the approval, and records for an activation that
the rule waits for its review. The endpoint that cancels an approval only asks the repository.
-/

namespace DqMadeEasy

namespace Approvals

namespace Review

open Artifacts Lifecycle Lifecycle.InMemory RunPlans Runs Worker

variable {Content : Type}

/-- A request for an approval, with what the repository draws for it. -/
structure RequestCommand where
  payload : Dict
  actorId : Option Text
  grantedScopes : List Text
  draw : Draw
  now : Instant

/-- What the checks of a request found. -/
structure CheckedRequest where
  ruleId : Text
  requestType : Text
  effectiveAt : Option Text
  suiteRepair : Json
  currentRuleStatus : Option Text

section Endpoints

variable [PyRuntime] [PyNumerals]

/-- `parse_approval_effective_at`: the time in UTC, in seconds. -/
def parseApprovalEffectiveAt [PyDatetime] (payload : Dict) : Except ApiError (Option Text) :=
  let raw := payload.get "effective_at"
  if raw.isNone = true ∨ Text.strip raw.str = [] then .ok none
  else match Datetime.ofText (Text.strip raw.str) with
    | none => .error (httpError 422 "effective_at must be a valid RFC3339 timestamp")
    | some parsed =>
      if parsed.aware = false then
        .error (httpError 422 "effective_at must include a timezone offset")
      else .ok (some (Text.replace "+00:00" ['Z'] (PyDatetime.isoformat
        ⟨parsed.microseconds - parsed.microseconds % 1000000, true⟩)))

/-- `normalize_approval_request_type` of a value of the payload. -/
def requestedType (value : Json) : Except ApiError Text :=
  let normalized := normalizeRequestType value
  if normalized ∈ allowedRequestTypes then .ok normalized
  else .error (httpError 422 ("request_type must be one of " ++
    Text.join ", " allowedRequestTypes))

def parseApprovalSuiteRepair (payload : Dict) : Except ApiError Json := do
  let raw := payload.get "suite_repair"
  if raw.isNone then
    throw (httpError 422 "suite_repair is required for gx_suite_repair")
  else
    let repair ← raw.asDict?.elim
      (.error (httpError 422 "suite_repair must be an object")) .ok
    let dataObjectId := optionalText (repair.get "data_object_id")
    let datasetId := optionalText (repair.get "dataset_id")
    let dataProductId := optionalText (repair.get "data_product_id")
    let versionIds ← normalizeApprovalStringList (repair.get "data_object_version_ids")
    let primaryKeyFields ← normalizeApprovalStringList (repair.get "primary_key_fields")
    if dataObjectId = none ∧ datasetId = none ∧ dataProductId = none then
      throw (httpError 422 ("suite_repair must include at least one of " ++
        "data_object_id, dataset_id, data_product_id").toList)
    else if versionIds = [] then
      throw (httpError 422 "suite_repair.data_object_version_ids must not be empty")
    else
      return .dict [entry "data_object_id" (optText dataObjectId),
        entry "dataset_id" (optText datasetId), entry "data_product_id" (optText dataProductId),
        entry "data_object_version_ids" (texts versionIds),
        entry "primary_key_fields" (texts primaryKeyFields)]

/-- A repair of the suite of a rule is pending: `any` over the approvals, which stops at the first
one and at the first request type that is not allowed. -/
def pendingRepair (ruleId : Text) : List Approval → Except ApiError Bool
  | [] => .ok false
  | approval :: approvals =>
    if Text.strip approval.ruleId = ruleId ∧
        canonicalizeStatus (some approval.status) = "pending" then do
      let requestType ← normalizeApprovalRequestType approval.requestType
      if requestType = "gx_suite_repair" then return true
      else pendingRepair ruleId approvals
    else pendingRepair ruleId approvals

variable (S : ReviewServices Content)

omit [PyNumerals] in
/-- The status of the rule of a request, where the listing shows the rule. -/
def requestedRuleStatus (w : ReviewWorld Content) (ruleId : Text) : Option Text :=
  if ruleId = [] then none
  else ((S.page (w.rules.listRules none true (some false))).find? fun row => row.id = ruleId).map
    fun row => deriveApprovalRuleStatus row
      ((w.approvals.approvals.map Prod.snd).filter fun approval => approval.ruleId = ruleId)

omit [PyNumerals] in
/-- What a request needs of the status of its rule. -/
def checkRequestedStatus (grantedScopes : List Text) (requestType current : Text) :
    Except ApiError Unit :=
  if requestType = "deactivation" then
    if current ≠ "activated" then .error (notAllowed current "deactivated")
    else .ok ()
  else if requestType = "gx_suite_repair" then
    if current ≠ "activated" then
      .error (httpError 409 "gx_suite_repair requires the rule to be activated")
    else .ok ()
  else if isTransitionAllowed S.hasRequiredScope S.overrides .rule current
      "pending-approval" ((grantedScopes.map Text.strip).filter (· ≠ [])) = false then
    .error (notAllowed current "pending-approval")
  else .ok ()

/-- What the endpoint checks before it writes. -/
def checkRequest [PyDatetime] (command : RequestCommand) (w : ReviewWorld Content) :
    Except ApiError CheckedRequest := do
  rejectCamelCaseKeys command.payload "Approval creation payload"
  let effectiveAt ← parseApprovalEffectiveAt command.payload
  let ruleId := (command.payload.get "rule_id").strippedText
  let gxRunPlanId := (command.payload.get "gx_run_plan_id").strippedText
  if ruleId = [] ∧ gxRunPlanId = [] then
    throw (httpError 422 "rule_id or gx_run_plan_id is required")
  else if ruleId = [] ∧ (command.payload.get "gx_run_plan_version_id").strippedText = [] then
    throw (httpError 422
      "gx_run_plan_version_id is required when gx_run_plan_id is provided")
  else
    let requestType ← requestedType (command.payload.get "request_type")
    let suiteRepair ← if requestType = "gx_suite_repair" then do
        let suiteRepair ← parseApprovalSuiteRepair command.payload
        let pending ← pendingRepair ruleId (w.approvals.approvals.map Prod.snd)
        if pending then
          throw (httpError 409 "A pending gx_suite_repair already exists for this rule")
        else pure suiteRepair
      else pure Json.null
    let currentRuleStatus := requestedRuleStatus S w ruleId
    currentRuleStatus.elim (.ok ()) (checkRequestedStatus S command.grantedScopes requestType)
    return ⟨ruleId, requestType, effectiveAt, suiteRepair, currentRuleStatus⟩

/-- The payload that the repository is given. -/
def CheckedRequest.payload (checked : CheckedRequest) (command : RequestCommand) : Dict :=
  [entry "rule_id" (.scalar (.str checked.ruleId)),
    entry "gx_run_plan_id" (optText (optionalText (command.payload.get "gx_run_plan_id"))),
    entry "gx_run_plan_version_id"
      (optText (optionalText (command.payload.get "gx_run_plan_version_id"))),
    entry "effective_status" (optText (deriveEffectiveStatus checked.requestType)),
    entry "request_type" (.scalar (.str checked.requestType)),
    entry "workspace_id" (.scalar (.str (textOrElse (command.payload.get "workspace_id") "default"))),
    entry "comments" (optText (optionalText (command.payload.get "comments"))),
    entry "effective_at" (optText checked.effectiveAt),
    entry "suite_repair" checked.suiteRepair,
    entry "status" (.scalar (.str (textOrElse (command.payload.get "status") "pending")))]

omit [PyRuntime] [PyNumerals] in
def CheckedRequest.Records (checked : CheckedRequest) : Prop :=
  checked.ruleId ≠ [] ∧ checked.currentRuleStatus.isSome = true ∧
    checked.requestType ∉ ["deactivation", "gx_suite_repair"].map String.toList

instance (checked : CheckedRequest) : Decidable checked.Records :=
  inferInstanceAs (Decidable (_ ∧ _ ∧ _))

omit [PyNumerals] in
/-- `record_rule_status_transition` after the creation. -/
def recordRequest (command : RequestCommand) (checked : CheckedRequest) :
    Effect (ReviewWorld Content) ApiError Unit :=
  if checked.Records then do
    let _ ← rulesPart.on .raised (methodEffect (recordRuleStatusTransition S.overrides
      checked.ruleId command.now checked.currentRuleStatus "pending-approval"
      command.actorId (some "Approval requested")))
    pure ()
  else pure ()

/-- `create_approval`, the endpoint. -/
def createApproval [PyDatetime] (command : RequestCommand) :
    Effect (ReviewWorld Content) ApiError (Text × Approval) := do
  let w ← get
  let checked ← Effect.ofExcept (checkRequest S command w)
  let created ← approvalsPart.on .raised
    (Approvals.createApproval command.draw (checked.payload command) command.actorId)
  recordRequest S command checked
  return created

omit [PyRuntime] [PyNumerals] in
/-- `delete_approval`, the endpoint. -/
def deleteApproval (approvalId : Text) (actorId : Option Text) :
    Effect (ReviewWorld Content) ApiError Approval := do
  if actorId.getD [] = [] then Effect.raise (httpError 401 "Not authenticated")
  else
    let deleted ← approvalsPart.on forbidding (Approvals.deleteApproval approvalId actorId)
    Effect.ofExcept (deleted.elim (.error (httpError 404 "Not found")) .ok)

end Endpoints

end Review

end Approvals

end DqMadeEasy
