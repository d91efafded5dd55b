import DqMadeEasy.Approvals.Repository

/-!
# Listings of approvals and the Postgres repository

The in-memory repository mutates the approvals that it keeps. The tables keep of an approval its
status and who acted on it; its comments, its request type and its effective time are those of the
first audit row that says it was created. Every audit row has an id that is a key.
-/

namespace DqMadeEasy

namespace Approvals

open Artifacts Worker

/-- The arguments of `list_approvals`. -/
structure ListFilters where
  workspaceId : Option Text := none
  businessKey : Option Text := none
  requestType : Option Text := none
  status : Option Text := none
  requesterId : Option Text := none
  excludeRequesterId : Option Text := none
  query : Option Text := none

/-- What the filters read of an approval. -/
structure Searched where
  id : Text
  businessKey : Text
  ruleId : Text
  status : Text
  requestType : Json
  requesterId : Option Text
  reviewedBy : Option Text
  effectiveStatus : Option Text
  comments : Json

section Listing

variable [PyRuntime]

def normalizeStatus (value : Option Text) : Option Text :=
  match PyRuntime.lower (strippedOr value) with
  | [] => none
  | c :: cs => some (c :: cs)

variable [PyNumerals]

def approvalMatchesFilters (filters : ListFilters) (approval : Searched) : Bool :=
  let requestType := normalizeRequestType approval.requestType
  let status := normalizeStatus (some approval.status)
  let requester := strippedOr approval.requesterId
  let query := PyRuntime.lower (strippedOr filters.query)
  let searchable := [approval.id, approval.businessKey, approval.ruleId, status.getD [],
    requestType, requester, approval.reviewedBy.getD [], approval.effectiveStatus.getD [],
    approval.comments.strippedText]
  filters.requestType.all (fun wanted =>
      requestType == normalizeRequestType (.scalar (.str wanted))) &&
    (normalizeStatus filters.status).all (fun wanted => status == some wanted) &&
    (strippedOr filters.requesterId == [] || requester == strippedOr filters.requesterId) &&
    (strippedOr filters.excludeRequesterId == [] ||
      requester != strippedOr filters.excludeRequesterId) &&
    (query == [] || searchable.any fun value =>
      decide (query <:+: PyRuntime.lower (Text.strip value)))

omit [PyRuntime] [PyNumerals] in
def Approval.searched (approvalId : Text) (approval : Approval) : Searched where
  id := approvalId
  businessKey := approval.businessKey
  ruleId := approval.ruleId
  status := approval.status
  requestType := .scalar (.str approval.requestType)
  requesterId := approval.requesterId
  reviewedBy := approval.reviewedBy
  effectiveStatus := approval.effectiveStatus
  comments := optText approval.comments

/-- `list_approvals` of the in-memory repository. -/
def Store.listApprovals (store : Store) (filters : ListFilters) : List (Text × Approval) :=
  store.approvals.filter fun entry =>
    filters.workspaceId.all (fun wanted =>
        PyRuntime.lower (Text.strip entry.2.workspaceId) == PyRuntime.lower (Text.strip wanted)) &&
      filters.businessKey.all (fun wanted => Text.strip entry.2.businessKey == wanted) &&
      approvalMatchesFilters filters (entry.2.searched entry.1)

end Listing

namespace Postgres

/-- `ApprovalRow`, where the time of the action is the text that it reads back as. -/
structure ApprovalRow where
  businessKey : Text
  ruleId : Text
  effectiveStatus : Option Text
  gxRunPlanId : Option Text
  gxRunPlanVersionId : Option Text
  status : Text
  requesterId : Option Text
  requestedAt : Option Text
  actedBy : Option Text
  actedAt : Option Text
  workspaceId : Text

/-- `AuditRow`, where the details are the object that their text denotes. -/
structure AuditRow where
  id : Text
  approvalId : Text
  action : String
  actorId : Option Text
  timestamp : Text
  details : Dict

/-- The rows of approvals by id, and the audit rows. -/
structure Tables where
  approvals : List (Text × ApprovalRow)
  audit : List AuditRow

/-- The order in which the database returns rows that no query orders, and the text of a time that
it stored without its zone. -/
structure Database where
  scan : {α : Type} → List α → List α
  scan_perm : ∀ {α : Type} (rows : List α), (scan rows).Perm rows
  actedAtText : Text → Text
  actedAtText_ne_nil : ∀ t, actedAtText t ≠ []
  strip_actedAtText : ∀ t, Text.strip (actedAtText t) = actedAtText t

/-- What the driver raises for a second row with a key. -/
def integrityError : PyError := .mk .exception "sqlalchemy.exc" "IntegrityError" [] none none

namespace Tables

def find? (tables : Tables) (approvalId : Text) : Option ApprovalRow :=
  Assoc.find? tables.approvals approvalId

def HasAudit (tables : Tables) (id : Text) : Prop := ∃ row ∈ tables.audit, row.id = id

instance (tables : Tables) (id : Text) : Decidable (tables.HasAudit id) :=
  inferInstanceAs (Decidable (∃ row ∈ tables.audit, _))

end Tables

section Methods

variable [PyRuntime] [PyNumerals] (db : Database)

/-- `_payload_text` of a value. -/
def payloadText (value : Json) (default : Option Text) : Option Text :=
  match if value.isNone then default else some value.str with
  | none => none
  | some text => if Text.strip text = [] then default else some (Text.strip text)

omit [PyRuntime] [PyNumerals] in
/-- `value or fallback`. -/
def textOr (value : Option Text) (fallback : String) : Text :=
  match value with
  | some (c :: cs) => c :: cs
  | _ => fallback.toList

omit [PyRuntime] [PyNumerals] in
/-- One row of `_load_created_details`. -/
def keepDetails (payload : List (Text × Dict)) (row : AuditRow) : List (Text × Dict) :=
  let approvalId := Text.strip row.approvalId
  if approvalId = [] ∨ (Assoc.find? payload approvalId).isSome then payload
  else Assoc.update approvalId (fun _ => row.details) payload

omit [PyRuntime] [PyNumerals] in
def loadCreatedDetails (tables : Tables) (approvalIds : List Text) : List (Text × Dict) :=
  (db.scan (tables.audit.filter fun row =>
    decide (row.approvalId ∈ approvalIds) && row.action == "created")).foldl keepDetails []

omit [PyRuntime] [PyNumerals] in
/-- The details among those loaded of some ids. -/
def detailsOf (details : List (Text × Dict)) (approvalId : Text) : Dict :=
  (Assoc.find? details approvalId).getD []

/-- `_to_approval_entity` of `_approval_row_to_dict`. -/
def toApprovalEntity (row : ApprovalRow) (details : Dict) : Approval where
  businessKey := (payloadText (.scalar (.str row.businessKey)) none).getD []
  ruleId := (payloadText (.scalar (.str row.ruleId)) (some [])).getD []
  gxRunPlanId := payloadText (optText row.gxRunPlanId) none
  gxRunPlanVersionId := payloadText (optText row.gxRunPlanVersionId) none
  status := textOr (some row.status) "pending"
  requesterId := payloadText (optText row.requesterId) none
  workspaceId := textOr (payloadText (.scalar (.str row.workspaceId)) (some "default"))
    "default"
  requestType := normalizeRequestType (details.get "request_type")
  effectiveStatus := payloadText (optText row.effectiveStatus) none
  effectiveAt := payloadText (details.get "effective_at") none
  comments := payloadText (details.get "comments") none
  requestedAt := payloadText (optText row.requestedAt) none
  reviewedBy := payloadText (optText row.actedBy) none
  reviewedAt := payloadText (optText row.actedAt) none

/-- The entity of `_fetch_one`. -/
def fetchOne (tables : Tables) (approvalId : Text) (row : ApprovalRow) : Approval :=
  toApprovalEntity row (detailsOf (loadCreatedDetails db tables [approvalId]) approvalId)

/-- The row that `create_approval` adds. -/
def createdRow (draw : Draw) (payload : Dict) (actorId : Option Text) : ApprovalRow :=
  let created := createdApproval draw payload actorId
  let acted := (created.status = "approved" ∨ created.status = "rejected") ∧
    actorId.getD [] ≠ []
  { businessKey := created.businessKey
    ruleId := created.ruleId
    effectiveStatus := created.effectiveStatus
    gxRunPlanId := created.gxRunPlanId
    gxRunPlanVersionId := created.gxRunPlanVersionId
    status := created.status
    requesterId := created.requesterId
    requestedAt := created.requestedAt
    actedBy := if acted then actorId else none
    actedAt := if acted then some (db.actedAtText draw.timestamp) else none
    workspaceId := created.workspaceId }

/-- The audit row with the details of an event. -/
def auditRow (id : Text) (event : AuditEvent) : AuditRow where
  id := id
  approvalId := event.approvalId
  action := event.action
  actorId := event.actorId
  timestamp := event.timestamp
  details := event.details

def createApproval (draw : Draw) (payload : Dict) (actorId : Option Text) :
    Effect Tables PyError (Text × Approval) := Effect.ofState fun tables =>
  match rejectCamelCaseApprovalKeys payload "Approval creation payload" with
  | .error exc => (.error exc, tables)
  | .ok _ =>
    let created := createdApproval draw payload actorId
    if created.gxRunPlanId.isSome ∧ created.gxRunPlanVersionId = none then
      (.error (.builtin "ValueError"
        "gx_run_plan_version_id is required when gx_run_plan_id is provided"), tables)
    else if (tables.find? draw.id).isSome ∨ tables.HasAudit (draw.id ++ "-a") then
      (.error integrityError, tables)
    else
      let row := createdRow db draw payload actorId
      let tables' : Tables := {
        approvals := tables.approvals ++ [(draw.id, row)]
        audit := tables.audit ++
          [auditRow (draw.id ++ "-a") (createdEvent draw payload created)] }
      (.ok (draw.id, fetchOne db tables' draw.id row), tables')

/-- The status that `update_approval` writes. -/
def reviewedStatus (payload : Dict) (existing : ApprovalRow) : Text :=
  textOr (payloadText (payload.get "status") (some (textOr (some existing.status) "pending")))
    "pending"

/-- The audit row of a review, where the details are those of the row and of its creation. -/
def reviewedRow (draw : Draw) (approvalId : Text) (payload : Dict) (actorId : Option Text)
    (details : Dict) (existing : ApprovalRow) : AuditRow :=
  let status := reviewedStatus payload existing
  let requestType := normalizeRequestType (details.get "request_type")
  { id := approvalId ++ "-u"
    approvalId := approvalId
    action := if status = "approved" then "approved" else "rejected"
    actorId := actorId
    timestamp := draw.timestamp
    details := [("status", .scalar (.str status)),
      ("request_type", .scalar (.str requestType)),
      ("effective_status", optText
        ((payloadText (optText existing.effectiveStatus) none).or
          (deriveEffectiveStatus requestType))),
      ("comments", optText
        (payloadText (payload.get "comments") (optionalText (details.get "comments"))))] }

def updateApproval (draw : Draw) (approvalId : Text) (payload : Dict) (actorId : Option Text) :
    Effect Tables PyError (Option Approval) := Effect.ofState fun tables =>
  match rejectCamelCaseApprovalKeys payload "Approval update payload" with
  | .error exc => (.error exc, tables)
  | .ok _ =>
    match tables.find? approvalId with
    | none => (.ok none, tables)
    | some existing =>
      if SelfReview (payloadText (optText existing.requesterId) (some [])) actorId then
        (.error (.builtin "PermissionError" "Requester cannot approve their own request"), tables)
      else if tables.HasAudit (approvalId ++ "-u") then (.error integrityError, tables)
      else
        let details := detailsOf (loadCreatedDetails db tables [approvalId]) approvalId
        let row := { existing with
          status := reviewedStatus payload existing
          actedBy := actorId
          actedAt := some (db.actedAtText draw.timestamp) }
        let tables' : Tables := {
          approvals := Assoc.update approvalId (fun _ => row) tables.approvals
          audit := tables.audit ++
            [reviewedRow draw approvalId payload actorId details existing] }
        (.ok (some (fetchOne db tables' approvalId row)), tables')

def deleteApproval (draw : Draw) (approvalId : Text) (actorId : Option Text) :
    Effect Tables PyError (Option Approval) := Effect.ofState fun tables =>
  match tables.find? approvalId with
  | none => (.ok none, tables)
  | some existing =>
    if ForeignCancel (payloadText (optText existing.requesterId) (some [])) actorId then
      (.error (.builtin "PermissionError" "Only requester can cancel"), tables)
    else if tables.HasAudit (approvalId ++ "-d") then (.error integrityError, tables)
    else (.ok (some (fetchOne db tables approvalId existing)), {
      approvals := tables.approvals.eraseP fun entry => entry.1 = approvalId
      audit := tables.audit ++ [{
        id := approvalId ++ "-d"
        approvalId := approvalId
        action := "cancelled"
        actorId := actorId
        timestamp := draw.timestamp
        details := [] }] })

omit [PyRuntime] [PyNumerals] in
/-- `append_audit_event`, with the hexadecimal digits that `uuid4` drew. -/
def appendAuditEvent (hex : Text) (event : AuditEvent) : Effect Tables PyError Unit :=
  Effect.ofState fun tables =>
    let approvalId := Text.strip event.approvalId
    let id := approvalId ++ "-x-" ++ hex
    if approvalId = [] then (.error (.builtin "ValueError" "approval_id is required"), tables)
    else if tables.HasAudit id then (.error integrityError, tables)
    else (.ok (), { tables with
      audit := tables.audit ++ [auditRow id { event with approvalId := approvalId }] })

omit [PyRuntime] [PyNumerals] in
/-- The rows that the query of `list_approvals` selects. -/
def selects (filters : ListFilters) (row : ApprovalRow) : Bool :=
  filters.workspaceId.all (fun wanted => wanted == [] || row.workspaceId == wanted) &&
    filters.businessKey.all (fun wanted => row.businessKey == wanted) &&
    filters.requesterId.all (fun wanted => row.requesterId == some wanted) &&
    filters.excludeRequesterId.all (fun unwanted =>
      row.requesterId.any fun requester => requester != unwanted) &&
    filters.status.all (fun wanted => row.status == wanted)

omit [PyRuntime] [PyNumerals] in
/-- What the filters read of a row and the details of its creation. -/
def ApprovalRow.searched (approvalId : Text) (row : ApprovalRow) (details : Dict) : Searched where
  id := approvalId
  businessKey := row.businessKey
  ruleId := row.ruleId
  status := row.status
  requestType := details.get "request_type"
  requesterId := row.requesterId
  reviewedBy := row.actedBy
  effectiveStatus := row.effectiveStatus
  comments := details.get "comments"

def listApprovals (tables : Tables) (filters : ListFilters) : List (Text × Approval) :=
  let rows := db.scan (tables.approvals.filter fun entry => selects filters entry.2)
  let details := loadCreatedDetails db tables (rows.map Prod.fst)
  (rows.filter fun entry => approvalMatchesFilters filters
      (entry.2.searched entry.1 (detailsOf details entry.1))).map fun entry =>
    (entry.1, toApprovalEntity entry.2 (detailsOf details entry.1))

end Methods

end Postgres

end Approvals

end DqMadeEasy
