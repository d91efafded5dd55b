import DqMadeEasy.Artifacts.GxSuite
import DqMadeEasy.Logic.Effect

/-!
# The approvals repository

An approval is a request that someone other than its requester decides. The repository takes the
status of a new approval and of a review from the payload, and checks only that a reviewer who is
named is not the requester who is named.
-/

namespace DqMadeEasy

namespace Approvals

open Artifacts Worker

/-- A stored approval. -/
structure Approval where
  businessKey : Text
  ruleId : Text
  gxRunPlanId : Option Text
  gxRunPlanVersionId : Option Text
  status : Text
  requesterId : Option Text
  workspaceId : Text
  requestType : Text
  effectiveStatus : Option Text
  effectiveAt : Option Text
  comments : Option Text
  requestedAt : Option Text
  reviewedBy : Option Text
  reviewedAt : Option Text

/-- `ApprovalAuditEntity`, without the id that its position gives it. -/
structure AuditEvent where
  approvalId : Text
  action : String
  actorId : Option Text
  timestamp : Text
  details : Dict

/-- The approvals by id, in the order of their creation, and the audit trail. -/
structure Store where
  approvals : List (Text × Approval)
  audit : List AuditEvent

namespace Store

def find? (store : Store) (approvalId : Text) : Option Approval :=
  Assoc.find? store.approvals approvalId

end Store

/-- `str(value or "").strip()`, of an optional text. -/
def strippedOr (value : Option Text) : Text := Text.strip (value.getD [])

/-- `requester and actor and requester == actor`. -/
def SelfReview (requesterId actorId : Option Text) : Prop :=
  strippedOr requesterId ≠ [] ∧ strippedOr actorId ≠ [] ∧
    strippedOr requesterId = strippedOr actorId

instance (requesterId actorId : Option Text) : Decidable (SelfReview requesterId actorId) :=
  inferInstanceAs (Decidable (_ ∧ _ ∧ _))

/-- `requester and actor and requester != actor`. -/
def ForeignCancel (requesterId actorId : Option Text) : Prop :=
  strippedOr requesterId ≠ [] ∧ strippedOr actorId ≠ [] ∧
    strippedOr requesterId ≠ strippedOr actorId

instance (requesterId actorId : Option Text) : Decidable (ForeignCancel requesterId actorId) :=
  inferInstanceAs (Decidable (_ ∧ _ ∧ _))

/-- The id and the time that a method draws. -/
structure Draw where
  id : Text
  timestamp : Text

section Normalize

variable [PyRuntime] [PyNumerals]

/-- `str(value or fallback).strip() or fallback`. -/
def textOrElse (value : Json) (fallback : String) : Text :=
  match value.strippedText with
  | [] => fallback.toList
  | c :: cs => c :: cs

/-- `str(value or "").strip() or None`. -/
def optionalText (value : Json) : Option Text :=
  match value.strippedText with
  | [] => none
  | c :: cs => some (c :: cs)

def normalizeRequestType (value : Json) : Text :=
  match Text.replace ['-'] ['_'] (PyRuntime.lower (value.orElse (.text "activation")).str.strip) with
  | [] => "activation"
  | c :: cs => c :: cs

omit [PyRuntime] [PyNumerals] in
def deriveEffectiveStatus (requestType : Text) : Option Text :=
  if requestType = "activation" then some "activated"
  else if requestType = "deactivation" then some "deactivated"
  else none

omit [PyRuntime] [PyNumerals] in
/-- The keys that `_reject_camel_case_approval_keys` rejects, sorted. -/
def camelCaseKeys : List String :=
  ["effectiveAt", "effectiveStatus", "gxRunPlanId", "gxRunPlanVersionId", "requestType",
    "requesterId", "ruleId", "workspaceId"]

omit [PyRuntime] [PyNumerals] in
def rejectCamelCaseApprovalKeys (payload : Dict) (context : String) : Except PyError Unit :=
  match (camelCaseKeys.map String.toList).filter fun key => payload.contains key with
  | [] => .ok ()
  | unexpected => .error (.mk .exception "builtins" "ValueError"
      (context.toList ++ " must use snake_case keys only: " ++
        Text.join ", " unexpected) none none)

end Normalize

section Methods

variable [PyRuntime] [PyNumerals]

/-- `actor_id or payload.get("requester_id")`. -/
def requesterOf (payload : Dict) (actorId : Option Text) : Json :=
  (optText actorId).orElse (payload.get "requester_id")

/-- The approval that `create_approval` stores. -/
def createdApproval (draw : Draw) (payload : Dict) (actorId : Option Text) : Approval :=
  let requestType := normalizeRequestType (payload.get "request_type")
  { businessKey := draw.id
    ruleId := (payload.get "rule_id").strippedText
    gxRunPlanId := optionalText (payload.get "gx_run_plan_id")
    gxRunPlanVersionId := optionalText (payload.get "gx_run_plan_version_id")
    status := textOrElse (payload.get "status") "pending"
    requesterId := optionalText (requesterOf payload actorId)
    workspaceId := textOrElse (payload.get "workspace_id") "default"
    requestType := requestType
    effectiveStatus := deriveEffectiveStatus requestType
    effectiveAt := optionalText (payload.get "effective_at")
    comments := optionalText (payload.get "comments")
    requestedAt := some draw.timestamp
    reviewedBy := none
    reviewedAt := none }

/-- The audit event of a creation. -/
def createdEvent (draw : Draw) (payload : Dict) (created : Approval) : AuditEvent where
  approvalId := draw.id
  action := "created"
  actorId := created.requesterId
  timestamp := draw.timestamp
  details := [("requester_id", optText created.requesterId),
    ("request_type", .scalar (.str created.requestType)),
    ("effective_status", optText created.effectiveStatus),
    ("effective_at", optText created.effectiveAt),
    ("comments", optText created.comments),
    ("suite_repair", payload.get "suite_repair"),
    ("gx_run_plan_id", optText created.gxRunPlanId),
    ("gx_run_plan_version_id", optText created.gxRunPlanVersionId)]

def createApproval (draw : Draw) (payload : Dict) (actorId : Option Text) :
    Effect Store PyError (Text × Approval) := Effect.ofState fun store =>
  match rejectCamelCaseApprovalKeys payload "Approval creation payload" with
  | .error exc => (.error exc, store)
  | .ok _ =>
    let created := createdApproval draw payload actorId
    if created.gxRunPlanId.isSome ∧ created.gxRunPlanVersionId = none then
      (.error (.builtin "ValueError"
        "gx_run_plan_version_id is required when gx_run_plan_id is provided"), store)
    else (.ok (draw.id, created), {
      approvals := store.approvals ++ [(draw.id, created)]
      audit := store.audit ++ [createdEvent draw payload created] })

/-- The status that a review writes: `str(payload.get("status") or existing.get("status") or
"pending").strip() or "pending"`. -/
def reviewedStatus (payload : Dict) (existing : Approval) : Text :=
  textOrElse ((payload.get "status").orElse (.scalar (.str existing.status))) "pending"

/-- The approval that `update_approval` stores. -/
def reviewedApproval (draw : Draw) (payload : Dict) (actorId : Option Text) (existing : Approval) :
    Approval :=
  { existing with
    status := reviewedStatus payload existing
    comments := optionalText ((payload.get "comments").orElse (optText existing.comments))
    reviewedBy := actorId
    reviewedAt := some draw.timestamp }

/-- The audit event of a review. -/
def reviewedEvent (draw : Draw) (approvalId : Text) (actorId : Option Text) (reviewed : Approval) :
    AuditEvent where
  approvalId := approvalId
  action := if reviewed.status = "approved" then "approved" else "rejected"
  actorId := actorId
  timestamp := draw.timestamp
  details := [("status", .scalar (.str reviewed.status)),
    ("request_type", .scalar (.str reviewed.requestType)),
    ("effective_status", optText
      ((reviewed.effectiveStatus.filter fun status => status ≠ []).or
        (deriveEffectiveStatus (normalizeRequestType (.scalar (.str reviewed.requestType)))))),
    ("comments", optText reviewed.comments)]

/-- `update_approval`: the named reviewer is not the named requester. -/
def updateApproval (draw : Draw) (approvalId : Text) (payload : Dict) (actorId : Option Text) :
    Effect Store PyError (Option Approval) := Effect.ofState fun store =>
  match store.find? approvalId with
  | none => (.ok none, store)
  | some existing =>
    if SelfReview existing.requesterId actorId then
      (.error (.builtin "PermissionError" "Requester cannot approve their own request"), store)
    else
      let reviewed := reviewedApproval draw payload actorId existing
      (.ok (some reviewed), {
        approvals := Assoc.update approvalId (fun _ => reviewed) store.approvals
        audit := store.audit ++ [reviewedEvent draw approvalId actorId reviewed] })

omit [PyRuntime] [PyNumerals] in
/-- `delete_approval`: a named actor is the named requester. -/
def deleteApproval (approvalId : Text) (actorId : Option Text) :
    Effect Store PyError (Option Approval) := Effect.ofState fun store =>
  match store.find? approvalId with
  | none => (.ok none, store)
  | some existing =>
    if ForeignCancel existing.requesterId actorId then
      (.error (.builtin "PermissionError" "Only requester can cancel"), store)
    else (.ok (some existing), {
      approvals := store.approvals.eraseP fun entry => entry.1 = approvalId
      audit := store.audit ++ [{
        approvalId := approvalId
        action := "cancelled"
        actorId := actorId
        timestamp := "2026-03-14T00:00:00Z"
        details := [] }] })

omit [PyRuntime] [PyNumerals] in
def appendAuditEvent (event : AuditEvent) : Effect Store PyError Unit :=
  Effect.ofState fun store => (.ok (), { store with audit := store.audit ++ [event] })

end Methods

end Approvals

end DqMadeEasy
