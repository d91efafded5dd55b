import DqMadeEasy.Approvals.Postgres
import DqMadeEasy.Logic.Lockstep

/-!
# Two approval repositories

The same calls are made of the in-memory repository and of the tables. They are answered alike as
long as no approval is reviewed twice and no review brings comments, among other conditions on the
arguments: the tables give every review of an approval the same audit row id, and read the comments
of an approval from the row of its creation.
-/

namespace DqMadeEasy

namespace Approvals

open Artifacts Lockstep Transition Worker

/-- What is asked of a repository, with what it draws. -/
inductive Call where
  | create (draw : Draw) (payload : Dict) (actorId : Option Text)
  | update (draw : Draw) (approvalId : Text) (payload : Dict) (actorId : Option Text)
  | delete (draw : Draw) (approvalId : Text) (actorId : Option Text)
  | appendAudit (hex : Text) (event : AuditEvent)
  | list (filters : ListFilters)

/-- What a caller sees of an approval. -/
structure Shown where
  approvalId : Text
  status : Text
  comments : Option Text
  reviewedBy : Option Text
  reviewedAt : Option Text
  deriving DecidableEq

def Approval.shown (approvalId : Text) (approval : Approval) : Shown where
  approvalId := approvalId
  status := approval.status
  comments := approval.comments
  reviewedBy := approval.reviewedBy
  reviewedAt := approval.reviewedAt

/-- An answer: a refusal, an approval if there is one, the approvals that are listed, or nothing. -/
inductive Answer where
  | refused
  | approval (shown : Option Shown)
  | approvals (shown : List Shown)
  | audited

/-- The answer with the approval that a method returns. -/
def answer {α : Type} (shown : α → Answer) : Except PyError α → Answer
  | .ok a => shown a
  | .error _ => .refused

section Calls

variable [PyRuntime] [PyNumerals]

/-- A call of the in-memory repository. -/
def Store.call (store : Store) : Call → Answer × Store
  | .create draw payload actorId =>
    let (result, store') := (createApproval draw payload actorId).run store
    (answer (fun created => .approval (some (created.2.shown created.1))) result, store')
  | .update draw approvalId payload actorId =>
    let (result, store') := (updateApproval draw approvalId payload actorId).run store
    (answer (fun found => .approval (found.map (Approval.shown approvalId))) result, store')
  | .delete _ approvalId actorId =>
    let (result, store') := (deleteApproval approvalId actorId).run store
    (answer (fun found => .approval (found.map (Approval.shown approvalId))) result, store')
  | .appendAudit _ event =>
    let (result, store') := (appendAuditEvent event).run store
    (answer (fun _ => .audited) result, store')
  | .list filters =>
    (.approvals ((store.listApprovals filters).map fun entry => entry.2.shown entry.1), store)

/-- A call of the tables. -/
def Postgres.call (db : Postgres.Database) (tables : Postgres.Tables) :
    Call → Answer × Postgres.Tables
  | .create draw payload actorId =>
    let (result, tables') := (Postgres.createApproval db draw payload actorId).run tables
    (answer (fun created => .approval (some (created.2.shown created.1))) result, tables')
  | .update draw approvalId payload actorId =>
    let (result, tables') := (Postgres.updateApproval db draw approvalId payload actorId).run tables
    (answer (fun found => .approval (found.map (Approval.shown approvalId))) result, tables')
  | .delete draw approvalId actorId =>
    let (result, tables') := (Postgres.deleteApproval db draw approvalId actorId).run tables
    (answer (fun found => .approval (found.map (Approval.shown approvalId))) result, tables')
  | .appendAudit hex event =>
    let (result, tables') := (Postgres.appendAuditEvent hex event).run tables
    (answer (fun _ => .audited) result, tables')
  | .list filters =>
    (.approvals ((Postgres.listApprovals db tables filters).map fun entry =>
      entry.2.shown entry.1), tables)

end Calls

/-- The time of a review as the tables give it back. -/
def Shown.stored (db : Postgres.Database) (shown : Shown) : Shown :=
  { shown with reviewedAt := shown.reviewedAt.map db.actedAtText }

/-- Two answers show the same approvals, with the time of a review as each gives it. -/
def SameAnswer (db : Postgres.Database) : Answer → Answer → Prop
  | .refused, .refused => True
  | .approval shown, .approval shown' => shown.map (Shown.stored db) = shown'
  | .approvals shown, .approvals shown' => (shown.map (Shown.stored db)).Perm shown'
  | .audited, .audited => True
  | _, _ => False

/-- A text that is not empty and has no white space around it. -/
def PlainText (t : Text) : Prop := t ≠ [] ∧ Text.strip t = t

instance (t : Text) : Decidable (PlainText t) := inferInstanceAs (Decidable (_ ∧ _))

/-- The ids that a call draws are those of no row. -/
def Generated (s : Store × Postgres.Tables) : Call → Prop
  | .create draw _ _ => PlainText draw.id ∧ s.1.find? draw.id = none ∧
      (∀ row ∈ s.2.audit, row.approvalId ≠ draw.id) ∧ ¬s.2.HasAudit (draw.id ++ "-a")
  | .appendAudit hex event =>
      ¬s.2.HasAudit (Text.strip event.approvalId ++ "-x-" ++ hex)
  | .update .. | .delete .. | .list _ => True

section Conditions

variable [PyRuntime] [PyNumerals]

def StatusGiven (status : Json) : Prop :=
  status.isNone = true ∨ status = .scalar (.str []) ∨
    status.truthy = true ∧ Text.strip status.str ≠ []

/-- A listing whose filters are plain, and whose status and workspace are written as stored. -/
def Exactly (store : Store) (filters : ListFilters) : Prop :=
  (∀ wanted ∈ filters.workspaceId, wanted ≠ [] ∧ ∀ entry ∈ store.approvals,
    PyRuntime.lower (Text.strip entry.2.workspaceId) = PyRuntime.lower (Text.strip wanted) →
      entry.2.workspaceId = wanted) ∧
  (∀ wanted ∈ filters.status, normalizeStatus (some wanted) ≠ none ∧ ∀ entry ∈ store.approvals,
    normalizeStatus (some entry.2.status) = normalizeStatus (some wanted) →
      entry.2.status = wanted) ∧
  (∀ wanted ∈ filters.requesterId, PlainText wanted) ∧
  (∀ unwanted ∈ filters.excludeRequesterId, PlainText unwanted ∧
    ∀ entry ∈ store.approvals, entry.2.requesterId ≠ none)

/-- A call that both repositories answer alike. -/
def Interchangeable (s : Store × Postgres.Tables) : Call → Prop
  | .create _ payload actorId =>
      ¬((textOrElse (payload.get "status") "pending" = "approved" ∨
          textOrElse (payload.get "status") "pending" = "rejected") ∧
        actorId.getD [] ≠ [])
  | .update _ approvalId payload actorId =>
      (∀ key ∈ camelCaseKeys, payload.contains key.toList = false) ∧
        ∀ existing ∈ s.1.find? approvalId, ¬SelfReview existing.requesterId actorId →
          ¬s.2.HasAudit (approvalId ++ "-u") ∧ StatusGiven (payload.get "status") ∧
            optionalText ((payload.get "comments").orElse (optText existing.comments)) =
              existing.comments ∧
            ∀ actor ∈ actorId, PlainText actor
  | .delete _ approvalId actorId =>
      ∀ existing ∈ s.1.find? approvalId, ¬ForeignCancel existing.requesterId actorId →
        ¬s.2.HasAudit (approvalId ++ "-d")
  | .appendAudit _ event => Text.strip event.approvalId ≠ [] ∧ event.action ≠ "created"
  | .list filters => Exactly s.1 filters

end Conditions

/-! ### What the tables keep -/

namespace Postgres

/-- The row of an approval. -/
def rowOf (db : Database) (approval : Approval) : ApprovalRow where
  businessKey := approval.businessKey
  ruleId := approval.ruleId
  effectiveStatus := approval.effectiveStatus
  gxRunPlanId := approval.gxRunPlanId
  gxRunPlanVersionId := approval.gxRunPlanVersionId
  status := approval.status
  requesterId := approval.requesterId
  requestedAt := approval.requestedAt
  actedBy := approval.reviewedBy
  actedAt := approval.reviewedAt.map db.actedAtText
  workspaceId := approval.workspaceId

/-- The details of a creation have the comments and the request type of the approval. -/
structure Tells (details : Dict) (approval : Approval) : Prop where
  comments : details.get "comments" = optText approval.comments
  requestType : details.get "request_type" = .scalar (.str approval.requestType)

/-- The texts of an approval are plain. -/
structure Plain (entry : Text × Approval) : Prop where
  id : PlainText entry.1
  businessKey : Text.strip entry.2.businessKey = entry.2.businessKey
  status : PlainText entry.2.status
  requesterId : ∀ t ∈ entry.2.requesterId, PlainText t
  reviewedBy : ∀ t ∈ entry.2.reviewedBy, PlainText t
  comments : ∀ t ∈ entry.2.comments, PlainText t

def AuditRow.Creates (row : AuditRow) (approvalId : Text) : Prop :=
  row.approvalId = approvalId ∧ row.action = "created"

/-- The tables keep what the in-memory repository does. -/
structure Agrees (db : Database) (store : Store) (tables : Tables) : Prop where
  rows : tables.approvals = Assoc.mapValues (rowOf db) store.approvals
  distinct : (Assoc.keys store.approvals).Nodup
  plain : ∀ entry ∈ store.approvals, Plain entry
  created : ∀ entry ∈ store.approvals, ∃ row ∈ tables.audit, row.Creates entry.1
  tells : ∀ entry ∈ store.approvals, ∀ row ∈ tables.audit, row.Creates entry.1 →
    Tells row.details entry.2

variable {db : Database} {store : Store} {tables : Tables} {approvalId : Text}
  {approval : Approval}

theorem Agrees.find? (h : Agrees db store tables) (approvalId : Text) :
    tables.find? approvalId = (store.find? approvalId).map (rowOf db) := by
  rw [Tables.find?, h.rows, Assoc.find?_mapValues]
  rfl

/-- The loop over the created rows keeps the details of one that says it of the approval. -/
theorem find?_foldl_keepDetails {P : Dict → Prop} (hid : PlainText approvalId)
    {rows : List AuditRow} {payload : List (Text × Dict)}
    (hrows : ∀ row ∈ rows, Text.strip row.approvalId = approvalId → P row.details)
    (hpayload : ∀ details, Assoc.find? payload approvalId = some details → P details)
    (hfound : (Assoc.find? payload approvalId).isSome ∨
      ∃ row ∈ rows, Text.strip row.approvalId = approvalId) :
    ∃ details, Assoc.find? (rows.foldl keepDetails payload) approvalId = some details ∧
      P details := by
  induction rows generalizing payload with
  | nil =>
    obtain hsome | ⟨_, hmem, -⟩ := hfound
    · obtain ⟨details, hdetails⟩ := Option.isSome_iff_exists.mp hsome
      exact ⟨details, hdetails, hpayload details hdetails⟩
    · cases hmem
  | cons row rows ih =>
    rw [List.foldl_cons]
    have hrest : ∀ other ∈ rows, Text.strip other.approvalId = approvalId → P other.details :=
      fun other hother => hrows other (List.mem_cons_of_mem _ hother)
    by_cases hsame : Text.strip row.approvalId = approvalId
    · have hrow := hrows row List.mem_cons_self hsame
      by_cases hsome : (Assoc.find? payload approvalId).isSome
      · have hkept : keepDetails payload row = payload := by
          rw [keepDetails, hsame]
          exact if_pos (.inr hsome)
        rw [hkept]
        exact ih hrest hpayload (.inl hsome)
      · have hset : keepDetails payload row =
            Assoc.update approvalId (fun _ => row.details) payload := by
          rw [keepDetails, hsame]
          exact if_neg (not_or.mpr ⟨hid.1, hsome⟩)
        have hnew : Assoc.find? (keepDetails payload row) approvalId = some row.details := by
          rw [hset, Assoc.find?_update, if_pos rfl]
        refine ih hrest ?_ (.inl (by rw [hnew]; rfl))
        intro details hdetails
        rw [hnew] at hdetails
        cases hdetails
        exact hrow
    · have hother : Assoc.find? (keepDetails payload row) approvalId =
          Assoc.find? payload approvalId := by
        rw [keepDetails]
        split
        · rfl
        · rw [Assoc.find?_update, if_neg hsame]
      refine ih hrest (fun details hdetails => hpayload details (hother ▸ hdetails)) ?_
      obtain hsome | ⟨other, hmem, hstrip⟩ := hfound
      · exact .inl (hother ▸ hsome)
      · obtain rfl | hmem := List.mem_cons.mp hmem
        · exact absurd hstrip hsame
        · exact .inr ⟨other, hmem, hstrip⟩

/-- The loaded details tell of the approval. -/
theorem Agrees.tells_loaded (h : Agrees db store tables) {entry : Text × Approval}
    (hentry : entry ∈ store.approvals) {ids : List Text} (hid : entry.1 ∈ ids)
    (hids : ∀ id ∈ ids, Text.strip id = id) :
    Tells (detailsOf (loadCreatedDetails db tables ids) entry.1) entry.2 := by
  have hplain := (h.plain entry hentry).id
  have hmem : ∀ row, row ∈ db.scan (tables.audit.filter fun row =>
      decide (row.approvalId ∈ ids) && row.action == "created") ↔
        row ∈ tables.audit ∧ row.approvalId ∈ ids ∧ row.action = "created" := by
    intro row
    rw [(db.scan_perm _).mem_iff, List.mem_filter, Bool.and_eq_true, decide_eq_true_eq, beq_iff_eq]
  have hloaded : ∃ details,
      Assoc.find? (loadCreatedDetails db tables ids) entry.1 = some details ∧
        Tells details entry.2 := by
    apply find?_foldl_keepDetails hplain
    · intro row hrow hstrip
      obtain ⟨haudit, hrowid, haction⟩ := (hmem row).mp hrow
      rw [hids _ hrowid] at hstrip
      exact h.tells entry hentry row haudit ⟨hstrip, haction⟩
    · exact nofun
    · obtain ⟨row, haudit, hsame, haction⟩ := h.created entry hentry
      refine .inr ⟨row, (hmem row).mpr ⟨haudit, hsame ▸ hid, haction⟩, ?_⟩
      rw [hsame]
      exact hplain.2
  obtain ⟨details, hfind, htells⟩ := hloaded
  rw [detailsOf, hfind]
  exact htells

section Answers

variable [PyRuntime] [PyNumerals] {draw : Draw} {payload : Dict} {actorId : Option Text}

theorem payloadText_plain {t : Text} (h : PlainText t) (default : Option Text) :
    payloadText (.scalar (.str t)) default = some t := by
  show (if Text.strip t = [] then default else some (Text.strip t)) = some t
  rw [h.2, if_neg h.1]

theorem payloadText_optText {value : Option Text} (h : ∀ t ∈ value, PlainText t) :
    payloadText (optText value) none = value := by
  cases value with
  | none => rfl
  | some t => exact payloadText_plain (h t rfl) none

/-- The entity of a row and the details of its creation. -/
theorem shown_toApprovalEntity {entry : Text × Approval} {details : Dict} (hplain : Plain entry)
    (htells : Tells details entry.2) :
    (toApprovalEntity (rowOf db entry.2) details).shown entry.1 =
      (entry.2.shown entry.1).stored db := by
  have hstatus : textOr (some entry.2.status) "pending" = entry.2.status := by
    cases hvalue : entry.2.status with
    | nil => exact absurd hvalue hplain.status.1
    | cons c cs => rfl
  have hcomments : payloadText (details.get "comments") none = entry.2.comments := by
    rw [htells.comments]
    exact payloadText_optText hplain.comments
  have hreviewedAt : payloadText (optText (entry.2.reviewedAt.map db.actedAtText)) none =
      entry.2.reviewedAt.map db.actedAtText := by
    apply payloadText_optText
    intro t ht
    obtain ⟨time, -, rfl⟩ := Option.mem_map.mp ht
    exact ⟨db.actedAtText_ne_nil time, db.strip_actedAtText time⟩
  show Shown.mk entry.1 (textOr (some entry.2.status) "pending")
    (payloadText (details.get "comments") none) (payloadText (optText entry.2.reviewedBy) none)
    (payloadText (optText (entry.2.reviewedAt.map db.actedAtText)) none) = _
  rw [hstatus, hcomments, hreviewedAt, payloadText_optText hplain.reviewedBy]
  rfl

theorem Agrees.shown_fetchOne (h : Agrees db store tables) {entry : Text × Approval}
    (hentry : entry ∈ store.approvals) :
    (fetchOne db tables entry.1 (rowOf db entry.2)).shown entry.1 =
      (entry.2.shown entry.1).stored db := by
  apply shown_toApprovalEntity (h.plain entry hentry)
  apply h.tells_loaded hentry (List.mem_singleton.mpr rfl)
  intro id hid
  rw [List.mem_singleton.mp hid]
  exact (h.plain entry hentry).id.2

theorem strippedOr_requester (approval : Approval) :
    strippedOr (payloadText (optText (rowOf db approval).requesterId) (some [])) =
      strippedOr approval.requesterId := by
  show strippedOr (payloadText (optText approval.requesterId) (some [])) = _
  cases approval.requesterId with
  | none => rfl
  | some requester =>
    show strippedOr (if Text.strip requester = [] then _ else _) = Text.strip requester
    split
    · rename_i hblank
      rw [hblank]
      rfl
    · exact Text.strip_strip requester

theorem selfReview_iff (approval : Approval) (actorId : Option Text) :
    SelfReview (payloadText (optText (rowOf db approval).requesterId) (some [])) actorId ↔
      SelfReview approval.requesterId actorId := by
  rw [SelfReview, SelfReview, strippedOr_requester]

theorem foreignCancel_iff (approval : Approval) (actorId : Option Text) :
    ForeignCancel (payloadText (optText (rowOf db approval).requesterId) (some [])) actorId ↔
      ForeignCancel approval.requesterId actorId := by
  rw [ForeignCancel, ForeignCancel, strippedOr_requester]

/-- A status that is given is read alike. -/
theorem reviewedStatus_rowOf {approval : Approval} (hplain : PlainText approval.status)
    (hgiven : StatusGiven (payload.get "status")) :
    reviewedStatus payload (rowOf db approval) = Approvals.reviewedStatus payload approval := by
  rw [reviewedStatus, Approvals.reviewedStatus]
  have hexisting : textOr (some (rowOf db approval).status) "pending" = approval.status := by
    show textOr (some approval.status) "pending" = _
    cases hvalue : approval.status with
    | nil => exact absurd hvalue hplain.1
    | cons c cs => rfl
  have htext : ∀ t : Text, t ≠ [] → textOr (some t) "pending" = t := by
    intro t ht
    cases t with
    | nil => exact absurd rfl ht
    | cons c cs => rfl
  have hwritten : ∀ value : Json, value.strippedText ≠ [] →
      textOrElse value "pending" = value.strippedText := by
    intro value hvalue
    rw [textOrElse]
    cases htext : value.strippedText with
    | nil => exact absurd htext hvalue
    | cons c cs => rfl
  have hkept : textOrElse (.scalar (.str approval.status)) "pending" = approval.status := by
    have hstripped : Json.strippedText (.scalar (.str approval.status)) = approval.status := by
      show (if (approval.status != []) = true then Text.strip approval.status else []) = _
      rw [if_pos (bne_iff_ne.mpr hplain.1), hplain.2]
    rw [hwritten _ (by rw [hstripped]; exact hplain.1), hstripped]
  rw [hexisting]
  obtain hnone | hempty | ⟨htrue, hblank⟩ := hgiven
  · have hvalue : payload.get "status" = .scalar .none := by
      cases hget : payload.get "status" with
      | scalar value =>
        rw [hget] at hnone
        cases value <;> first | rfl | cases hnone
      | list => rw [hget] at hnone; cases hnone
      | dict => rw [hget] at hnone; cases hnone
    rw [hvalue]
    show textOr (if Text.strip approval.status = [] then _ else _) _ =
      textOrElse (.scalar (.str approval.status)) "pending"
    rw [hplain.2, if_neg hplain.1, htext _ hplain.1, hkept]
  · rw [hempty]
    show textOr (some approval.status) _ = textOrElse (.scalar (.str approval.status)) "pending"
    rw [htext _ hplain.1, hkept]
  · have hpresent : (payload.get "status").isNone = false := by
      cases hget : payload.get "status" with
      | scalar value =>
        rw [hget] at htrue
        cases value <;> first | rfl | cases htrue
      | list => rfl
      | dict => rfl
    have hstripped : (payload.get "status").strippedText =
        Text.strip (payload.get "status").str := by
      rw [Json.strippedText, if_pos htrue]
    rw [payloadText, hpresent, Json.orElse, if_pos htrue,
      hwritten _ (by rw [hstripped]; exact hblank), hstripped]
    show textOr (if Text.strip (payload.get "status").str = [] then _ else _) _ = _
    rw [if_neg hblank, htext _ hblank]

end Answers

/-! ### Calls -/

section Simulation

variable [PyRuntime] [PyNumerals] {draw : Draw} {payload : Dict} {actorId : Option Text}

omit [PyRuntime] [PyNumerals] in
/-- An audit row that says nothing of a creation changes nothing that the tables keep. -/
theorem Agrees.audited (h : Agrees db store tables) (row : AuditRow) (event : AuditEvent)
    (haction : row.action ≠ "created") :
    Agrees db { store with audit := store.audit ++ [event] }
      { tables with audit := tables.audit ++ [row] } where
  rows := h.rows
  distinct := h.distinct
  plain := h.plain
  created := by
    intro entry hentry
    obtain ⟨created, haudit, hcreates⟩ := h.created entry hentry
    exact ⟨created, List.mem_append_left _ haudit, hcreates⟩
  tells := by
    intro entry hentry other hother hcreates
    rcases List.mem_append.mp hother with hother | hother
    · exact h.tells entry hentry other hother hcreates
    · rw [List.mem_singleton.mp hother] at hcreates
      exact absurd hcreates.2 haction

theorem plain_textOrElse (value : Json) {fallback : String} (h : PlainText fallback.toList) :
    PlainText (textOrElse value fallback) := by
  have hstrip := Json.strip_strippedText value
  rw [textOrElse]
  cases htext : value.strippedText with
  | nil => exact h
  | cons c cs =>
    rw [htext] at hstrip
    exact ⟨nofun, hstrip⟩

theorem plain_optionalText (value : Json) : ∀ t ∈ optionalText value, PlainText t := by
  intro t ht
  have hstrip := Json.strip_strippedText value
  rw [optionalText] at ht
  cases htext : value.strippedText with
  | nil =>
    rw [htext] at ht
    cases ht
  | cons c cs =>
    rw [htext] at ht hstrip
    cases ht
    exact ⟨nofun, hstrip⟩

theorem plain_created (hid : PlainText draw.id) :
    Plain (draw.id, createdApproval draw payload actorId) := by
  exact {
    id := hid
    businessKey := hid.2
    status := plain_textOrElse _ (by decide)
    requesterId := plain_optionalText _
    reviewedBy := nofun
    comments := plain_optionalText _ }

theorem createdRow_eq (hacted : ¬((textOrElse (payload.get "status") "pending" = "approved" ∨
    textOrElse (payload.get "status") "pending" = "rejected") ∧ actorId.getD [] ≠ [])) :
    createdRow db draw payload actorId = rowOf db (createdApproval draw payload actorId) := by
  have hstatus : ¬(((createdApproval draw payload actorId).status = "approved" ∨
      (createdApproval draw payload actorId).status = "rejected") ∧
        actorId.getD [] ≠ []) := hacted
  simp only [createdRow, if_neg hstatus]
  rfl

/-- The tables with a new approval. -/
theorem Agrees.create (h : Agrees db store tables) (hid : PlainText draw.id)
    (hnew : store.find? draw.id = none) (haudit : ∀ row ∈ tables.audit, row.approvalId ≠ draw.id)
    (hacted : ¬((textOrElse (payload.get "status") "pending" = "approved" ∨
        textOrElse (payload.get "status") "pending" = "rejected") ∧ actorId.getD [] ≠ [])) :
    Agrees db
      ⟨store.approvals ++ [(draw.id, createdApproval draw payload actorId)],
        store.audit ++ [createdEvent draw payload (createdApproval draw payload actorId)]⟩
      ⟨tables.approvals ++ [(draw.id, createdRow db draw payload actorId)],
        tables.audit ++ [auditRow (draw.id ++ "-a")
          (createdEvent draw payload (createdApproval draw payload actorId))]⟩ where
  rows := by
    rw [createdRow_eq hacted, h.rows, Assoc.mapValues, Assoc.mapValues, List.map_append]
    rfl
  distinct := by
    have hmem : draw.id ∉ Assoc.keys store.approvals := Assoc.find?_eq_none_iff.mp hnew
    rw [Assoc.keys, List.map_append]
    apply List.Nodup.append h.distinct (List.nodup_singleton _)
    intro id hid hsame
    rw [List.mem_singleton.mp hsame] at hid
    exact hmem hid
  plain := by
    intro entry hentry
    rcases List.mem_append.mp hentry with hentry | hentry
    · exact h.plain entry hentry
    · rw [List.mem_singleton.mp hentry]
      exact plain_created hid
  created := by
    intro entry hentry
    rcases List.mem_append.mp hentry with hentry | hentry
    · obtain ⟨row, hrow, hcreates⟩ := h.created entry hentry
      exact ⟨row, List.mem_append_left _ hrow, hcreates⟩
    · rw [List.mem_singleton.mp hentry]
      exact ⟨_, List.mem_append_right _ (List.mem_singleton.mpr rfl), rfl, rfl⟩
  tells := by
    have hold : ∀ entry ∈ store.approvals, entry.1 ≠ draw.id := by
      rintro entry hentry hsame
      have hmem : draw.id ∉ Assoc.keys store.approvals := Assoc.find?_eq_none_iff.mp hnew
      exact hmem (hsame ▸ List.mem_map_of_mem hentry)
    intro entry hentry row hrow hcreates
    rcases List.mem_append.mp hrow with hrow | hrow
    · rcases List.mem_append.mp hentry with hentry | hentry
      · exact h.tells entry hentry row hrow hcreates
      · rw [List.mem_singleton.mp hentry] at hcreates
        exact absurd hcreates.1 (haudit row hrow)
    · rw [List.mem_singleton.mp hrow] at hcreates ⊢
      rcases List.mem_append.mp hentry with hentry | hentry
      · exact absurd hcreates.1.symm (hold entry hentry)
      · rw [List.mem_singleton.mp hentry]
        exact ⟨rfl, rfl⟩

omit [PyRuntime] [PyNumerals] in
/-- The tables with a review. -/
theorem Agrees.update (h : Agrees db store tables) {existing reviewed : Approval}
    (hfind : store.find? approvalId = some existing)
    (hplain : Plain (approvalId, reviewed)) (hcomments : reviewed.comments = existing.comments)
    (htype : reviewed.requestType = existing.requestType) :
    Agrees db
      { store with approvals := Assoc.update approvalId (fun _ => reviewed) store.approvals }
      { tables with
        approvals := Assoc.update approvalId (fun _ => rowOf db reviewed) tables.approvals } := by
  have hkeys : Assoc.keys (Assoc.update approvalId (fun _ => reviewed) store.approvals) =
      Assoc.keys store.approvals := by
    rw [Assoc.keys_update, if_pos]
    by_contra hmem
    rw [Store.find?, Assoc.find?_eq_none_iff.mpr hmem] at hfind
    cases hfind
  have hdistinct : (Assoc.keys (Assoc.update approvalId (fun _ => reviewed)
      store.approvals)).Nodup := by
    rw [hkeys]
    exact h.distinct
  -- An entry is the reviewed one, or one that was there under another id.
  have hentries : ∀ entry ∈ Assoc.update approvalId (fun _ => reviewed) store.approvals,
      entry = (approvalId, reviewed) ∨ entry ∈ store.approvals := by
    rintro ⟨id, approval⟩ hentry
    have hvalue := Assoc.find?_of_mem hdistinct hentry
    rw [Assoc.find?_update] at hvalue
    split at hvalue
    · rename_i hsame
      cases hvalue
      rw [hsame]
      exact .inl rfl
    · exact .inr (Assoc.mem_of_find? hvalue)
  have hexisting : (approvalId, existing) ∈ store.approvals := Assoc.mem_of_find? hfind
  refine ⟨?_, hdistinct, ?_, ?_, ?_⟩
  · show Assoc.update approvalId _ tables.approvals = _
    rw [h.rows, Assoc.mapValues_update]
  · intro entry hentry
    obtain rfl | hold := hentries entry hentry
    · exact hplain
    · exact h.plain entry hold
  · intro entry hentry
    obtain rfl | hold := hentries entry hentry
    · exact h.created (approvalId, existing) hexisting
    · exact h.created entry hold
  · intro entry hentry row hrow hcreates
    obtain rfl | hold := hentries entry hentry
    · obtain ⟨htold, htypeTold⟩ := h.tells _ hexisting row hrow hcreates
      exact ⟨by rw [htold, hcomments], by rw [htypeTold, htype]⟩
    · exact h.tells entry hold row hrow hcreates

omit [PyRuntime] [PyNumerals] in
theorem Agrees.delete (h : Agrees db store tables) (approvalId : Text) :
    Agrees db { store with approvals := store.approvals.eraseP fun entry => entry.1 = approvalId }
      { tables with
        approvals := tables.approvals.eraseP fun entry => entry.1 = approvalId } := by
  have hsub : ∀ entry ∈ store.approvals.eraseP (fun entry => decide (entry.1 = approvalId)),
      entry ∈ store.approvals := fun entry hentry => List.mem_of_mem_eraseP hentry
  refine ⟨?_, ?_, fun entry hentry => h.plain entry (hsub entry hentry),
    fun entry hentry => h.created entry (hsub entry hentry),
    fun entry hentry => h.tells entry (hsub entry hentry)⟩
  · show tables.approvals.eraseP _ = List.map _ _
    rw [h.rows, Assoc.mapValues, List.eraseP_map]
    rfl
  · exact h.distinct.sublist ((List.eraseP_sublist).map Prod.fst)

theorem action_reviewedRow {details : Dict} {existing : ApprovalRow} :
    (reviewedRow draw approvalId payload actorId details existing).action ≠ "created" := by
  show (if _ then "approved" else "rejected") ≠ "created"
  split
  · decide
  · decide

def Matches (db : Database) (store : Store) (tables : Tables) (call : Call) : Prop :=
  SameAnswer db (store.call call).1 (Postgres.call db tables call).1 ∧
    Agrees db (store.call call).2 (Postgres.call db tables call).2

theorem matches_create (h : Agrees db store tables)
    (hdraw : Generated (store, tables) (.create draw payload actorId))
    (hacted : Interchangeable (store, tables) (.create draw payload actorId)) :
    Matches db store tables (.create draw payload actorId) := by
  obtain ⟨hid, hnew, haudit, hkey⟩ := hdraw
  rw [Matches, Store.call, Postgres.call, Approvals.createApproval, createApproval,
    Effect.run_ofState, Effect.run_ofState]
  cases rejectCamelCaseApprovalKeys payload "Approval creation payload" with
  | error exc => exact ⟨trivial, h⟩
  | ok _ =>
    dsimp only
    by_cases hplan : (createdApproval draw payload actorId).gxRunPlanId.isSome ∧
        (createdApproval draw payload actorId).gxRunPlanVersionId = none
    · rw [if_pos hplan, if_pos hplan]
      exact ⟨trivial, h⟩
    · have hnone : tables.find? draw.id = none := by
        rw [h.find?, hnew]
        rfl
      have hinserts : ¬((tables.find? draw.id).isSome ∨
          tables.HasAudit (draw.id ++ "-a")) := by
        rw [hnone]
        rintro (hsome | hhas)
        · cases hsome
        · exact hkey hhas
      rw [if_neg hplan, if_neg hplan, if_neg hinserts]
      have hagrees := h.create hid hnew haudit hacted
      refine ⟨?_, hagrees⟩
      have hrow : createdRow db draw payload actorId =
          rowOf db (createdApproval draw payload actorId) := createdRow_eq hacted
      show some _ = some _
      rw [hrow]
      refine congrArg some (Eq.symm ?_)
      rw [hrow] at hagrees
      have hmem : (draw.id, createdApproval draw payload actorId) ∈
          store.approvals ++ [(draw.id, createdApproval draw payload actorId)] :=
        List.mem_append_right _ (List.mem_singleton.mpr rfl)
      exact hagrees.shown_fetchOne hmem

theorem matches_update (h : Agrees db store tables)
    (hreview : Interchangeable (store, tables) (.update draw approvalId payload actorId)) :
    Matches db store tables (.update draw approvalId payload actorId) := by
  obtain ⟨hkeys, hreview⟩ := hreview
  have haccepts : rejectCamelCaseApprovalKeys payload "Approval update payload" = .ok () := by
    have hnone : (camelCaseKeys.map String.toList).filter (fun key => payload.contains key) =
        [] := by
      rw [List.filter_eq_nil_iff]
      intro key hkey
      obtain ⟨name, hname, rfl⟩ := List.mem_map.mp hkey
      exact Bool.eq_false_iff.mp (hkeys name hname)
    rw [rejectCamelCaseApprovalKeys, hnone]
  rw [Matches, Store.call, Postgres.call, Approvals.updateApproval, updateApproval,
    Effect.run_ofState, Effect.run_ofState, haccepts, h.find?]
  cases hfind : store.find? approvalId with
  | none => exact ⟨rfl, h⟩
  | some existing =>
    dsimp only [Option.map_some]
    by_cases hself : SelfReview existing.requesterId actorId
    · rw [if_pos hself, if_pos ((selfReview_iff existing actorId).mpr hself)]
      exact ⟨trivial, h⟩
    · obtain ⟨hkey, hstatus, hcomments, hactor⟩ := hreview existing hfind hself
      rw [if_neg hself, if_neg (fun hrow => hself ((selfReview_iff existing actorId).mp hrow)),
        if_neg hkey]
      have hplain := h.plain (approvalId, existing) (Assoc.mem_of_find? hfind)
      have hwritten : reviewedStatus payload (rowOf db existing) =
          Approvals.reviewedStatus payload existing :=
        reviewedStatus_rowOf hplain.status hstatus
      have hrow : { rowOf db existing with
          status := reviewedStatus payload (rowOf db existing)
          actedBy := actorId
          actedAt := some (db.actedAtText draw.timestamp) } =
            rowOf db (reviewedApproval draw payload actorId existing) := by
        rw [hwritten]
        rfl
      have hplain' : Plain (approvalId, reviewedApproval draw payload actorId existing) := {
        id := hplain.id
        businessKey := hplain.businessKey
        status := plain_textOrElse _ (by decide)
        requesterId := hplain.requesterId
        reviewedBy := hactor
        comments := by
          show ∀ t ∈ optionalText _, PlainText t
          rw [hcomments]
          exact hplain.comments }
      rw [hrow]
      have hupdated := h.update hfind hplain' hcomments rfl
      have hagrees := hupdated.audited
        (reviewedRow draw approvalId payload actorId
          (detailsOf (loadCreatedDetails db tables [approvalId]) approvalId) (rowOf db existing))
        (reviewedEvent draw approvalId actorId (reviewedApproval draw payload actorId existing))
        action_reviewedRow
      refine ⟨?_, hagrees⟩
      show some _ = some _
      refine congrArg some (Eq.symm ?_)
      have hmem : (approvalId, reviewedApproval draw payload actorId existing) ∈
          Assoc.update approvalId (fun _ => reviewedApproval draw payload actorId existing)
            store.approvals := by
        apply Assoc.mem_of_find?
        rw [Assoc.find?_update, if_pos rfl]
      exact hagrees.shown_fetchOne hmem

theorem matches_delete (h : Agrees db store tables)
    (hcancel : Interchangeable (store, tables) (.delete draw approvalId actorId)) :
    Matches db store tables (.delete draw approvalId actorId) := by
  rw [Matches, Store.call, Postgres.call, Approvals.deleteApproval, deleteApproval,
    Effect.run_ofState, Effect.run_ofState, h.find?]
  cases hfind : store.find? approvalId with
  | none => exact ⟨rfl, h⟩
  | some existing =>
    dsimp only [Option.map_some]
    by_cases hforeign : ForeignCancel existing.requesterId actorId
    · rw [if_pos hforeign, if_pos ((foreignCancel_iff existing actorId).mpr hforeign)]
      exact ⟨trivial, h⟩
    · rw [if_neg hforeign,
        if_neg (fun hrow => hforeign ((foreignCancel_iff existing actorId).mp hrow)),
        if_neg (hcancel existing hfind hforeign)]
      refine ⟨?_, (h.delete approvalId).audited _ _ (show "cancelled" ≠ "created" by decide)⟩
      show some _ = some _
      refine congrArg some (Eq.symm ?_)
      exact h.shown_fetchOne (Assoc.mem_of_find? hfind)

theorem matches_append (h : Agrees db store tables) {hex : Text} {event : AuditEvent}
    (hid : Generated (store, tables) (.appendAudit hex event))
    (hevent : Interchangeable (store, tables) (.appendAudit hex event)) :
    Matches db store tables (.appendAudit hex event) := by
  rw [Matches, Store.call, Postgres.call, Approvals.appendAuditEvent, appendAuditEvent,
    Effect.run_ofState, Effect.run_ofState]
  dsimp only
  rw [if_neg hevent.1, if_neg hid]
  exact ⟨trivial, h.audited _ _ hevent.2⟩

/-! ### Listings -/

variable {filters : ListFilters}

omit [PyRuntime] [PyNumerals] in
theorem searched_rowOf {entry : Text × Approval} {details : Dict}
    (htells : Tells details entry.2) :
    (rowOf db entry.2).searched entry.1 details = entry.2.searched entry.1 := by
  rw [ApprovalRow.searched, htells.comments, htells.requestType]
  rfl

/-- An approval that passes the filters passes the query's tests of its requester and its status. -/
theorem selects_of_matches {entry : Text × Approval} (hplain : Plain entry)
    (hentry : entry ∈ store.approvals) (hexact : Exactly store filters)
    (hmatches : approvalMatchesFilters filters (entry.2.searched entry.1) = true) :
    filters.requesterId.all (fun wanted => entry.2.requesterId == some wanted) = true ∧
      filters.excludeRequesterId.all (fun unwanted =>
        entry.2.requesterId.any fun requester => requester != unwanted) = true ∧
      filters.status.all (fun wanted => entry.2.status == wanted) = true := by
  obtain ⟨-, hstatusExact, hrequesterPlain, hexcludeExact⟩ := hexact
  rw [approvalMatchesFilters] at hmatches
  simp only [Bool.and_eq_true] at hmatches
  obtain ⟨⟨⟨⟨-, hstatus⟩, hrequester⟩, hexclude⟩, -⟩ := hmatches
  have hstripped : ∀ requester ∈ entry.2.requesterId, Text.strip requester = requester :=
    fun requester hmem => (hplain.requesterId requester hmem).2
  refine ⟨?_, ?_, ?_⟩
  · cases hwanted : filters.requesterId with
    | none => rfl
    | some wanted =>
      obtain ⟨hne, hstrip⟩ := hrequesterPlain wanted hwanted
      have hfilter : strippedOr filters.requesterId = wanted := by
        rw [hwanted]
        exact hstrip
      rw [hfilter, Bool.or_eq_true, beq_iff_eq, beq_iff_eq] at hrequester
      have hsame : strippedOr entry.2.requesterId = wanted := hrequester.resolve_left hne
      show (entry.2.requesterId == some wanted) = true
      cases hid : entry.2.requesterId with
      | none =>
        rw [hid] at hsame
        exact absurd hsame.symm hne
      | some requester =>
        rw [hid] at hsame
        have hvalue : Text.strip requester = wanted := hsame
        rw [hstripped requester hid] at hvalue
        rw [hvalue]
        exact beq_self_eq_true _
  · cases hunwanted : filters.excludeRequesterId with
    | none => rfl
    | some unwanted =>
      obtain ⟨⟨hne, hstrip⟩, hall⟩ := hexcludeExact unwanted hunwanted
      have hfilter : strippedOr filters.excludeRequesterId = unwanted := by
        rw [hunwanted]
        exact hstrip
      rw [hfilter, Bool.or_eq_true, beq_iff_eq, bne_iff_ne] at hexclude
      have hother : strippedOr entry.2.requesterId ≠ unwanted := hexclude.resolve_left hne
      cases hid : entry.2.requesterId with
      | none => exact absurd hid (hall entry hentry)
      | some requester =>
        rw [hid] at hother
        have hvalue : Text.strip requester ≠ unwanted := hother
        rw [hstripped requester hid] at hvalue
        exact bne_iff_ne.mpr hvalue
  · cases hwanted : filters.status with
    | none => rfl
    | some wanted =>
      obtain ⟨hsome, hall⟩ := hstatusExact wanted hwanted
      obtain ⟨normal, hnormal⟩ := Option.ne_none_iff_exists'.mp hsome
      rw [hwanted, hnormal] at hstatus
      have hsame : normalizeStatus (some entry.2.status) = some normal := beq_iff_eq.mp hstatus
      exact beq_iff_eq.mpr (hall entry hentry (hsame.trans hnormal.symm))

/-- The in-memory listing selects as the query and the filters do together. -/
theorem Agrees.selects_eq (h : Agrees db store tables) {entry : Text × Approval}
    (hentry : entry ∈ store.approvals) (hexact : Exactly store filters) :
    (filters.workspaceId.all (fun wanted => PyRuntime.lower (Text.strip entry.2.workspaceId) ==
          PyRuntime.lower (Text.strip wanted)) &&
        filters.businessKey.all (fun wanted => Text.strip entry.2.businessKey == wanted) &&
        approvalMatchesFilters filters (entry.2.searched entry.1)) =
      (approvalMatchesFilters filters (entry.2.searched entry.1) &&
        selects filters (rowOf db entry.2)) := by
  have hplain := h.plain entry hentry
  have hworkspace : filters.workspaceId.all (fun wanted =>
      PyRuntime.lower (Text.strip entry.2.workspaceId) == PyRuntime.lower (Text.strip wanted)) =
        filters.workspaceId.all (fun wanted => wanted == [] || entry.2.workspaceId == wanted) := by
    cases hwanted : filters.workspaceId with
    | none => rfl
    | some wanted =>
      obtain ⟨hne, hall⟩ := hexact.1 wanted hwanted
      show (_ == _) = (_ || _)
      rw [beq_eq_false_iff_ne.mpr hne, Bool.false_or, Bool.eq_iff_iff, beq_iff_eq, beq_iff_eq]
      exact ⟨hall entry hentry, fun hsame => by rw [hsame]⟩
  rw [hworkspace, hplain.businessKey]
  cases hmatches : approvalMatchesFilters filters (entry.2.searched entry.1) with
  | false => rw [Bool.and_false, Bool.false_and]
  | true =>
    obtain ⟨hrequester, hexclude, hstatus⟩ := selects_of_matches hplain hentry hexact hmatches
    rw [Bool.and_true, Bool.true_and]
    show _ = (_ && _ &&
      filters.requesterId.all (fun wanted => entry.2.requesterId == some wanted) &&
      filters.excludeRequesterId.all (fun unwanted =>
        entry.2.requesterId.any fun requester => requester != unwanted) &&
      filters.status.all (fun wanted => entry.2.status == wanted))
    rw [hrequester, hexclude, hstatus, Bool.and_true, Bool.and_true, Bool.and_true]
    rfl

theorem matches_list (h : Agrees db store tables)
    (hexact : Interchangeable (store, tables) (.list filters)) :
    Matches db store tables (.list filters) := by
  refine ⟨?_, h⟩
  let chosen := store.approvals.filter fun entry => selects filters (rowOf db entry.2)
  let scanned := db.scan (tables.approvals.filter fun entry => selects filters entry.2)
  let details := loadCreatedDetails db tables (scanned.map Prod.fst)
  have hscanned : scanned.Perm (chosen.map fun entry => (entry.1, rowOf db entry.2)) := by
    refine (db.scan_perm _).trans (.of_eq ?_)
    rw [h.rows, Assoc.mapValues, List.filter_map]
    rfl
  have hids : ∀ id ∈ scanned.map Prod.fst, Text.strip id = id := by
    intro id hid
    obtain ⟨row, hrow, rfl⟩ := List.mem_map.mp hid
    obtain ⟨entry, hentry, rfl⟩ := List.mem_map.mp (hscanned.mem_iff.mp hrow)
    exact (h.plain entry (List.mem_filter.mp hentry).1).id.2
  have htells : ∀ entry ∈ chosen, Tells (detailsOf details entry.1) entry.2 := by
    intro entry hentry
    refine h.tells_loaded (List.mem_filter.mp hentry).1 ?_ hids
    have hrow : (entry.1, rowOf db entry.2) ∈ scanned :=
      hscanned.mem_iff.mpr (List.mem_map_of_mem hentry)
    exact List.mem_map_of_mem hrow
  -- The rows that pass, in the order of the in-memory repository.
  have hfiltered : (chosen.map fun entry => (entry.1, rowOf db entry.2)).filter (fun row =>
      approvalMatchesFilters filters (row.2.searched row.1 (detailsOf details row.1))) =
        (store.listApprovals filters).map fun entry => (entry.1, rowOf db entry.2) := by
    rw [List.filter_map]
    congr 1
    rw [Store.listApprovals, List.filter_congr fun entry hentry =>
      h.selects_eq hentry hexact, ← List.filter_filter]
    apply List.filter_congr
    intro entry hentry
    show approvalMatchesFilters filters ((rowOf db entry.2).searched entry.1 _) = _
    rw [searched_rowOf (htells entry hentry)]
  have hlisted : ∀ entry ∈ store.listApprovals filters,
      (entry.2.shown entry.1).stored db =
        (toApprovalEntity (rowOf db entry.2) (detailsOf details entry.1)).shown entry.1 := by
    intro entry hentry
    have hstored : entry ∈ store.approvals := (List.mem_filter.mp hentry).1
    refine (shown_toApprovalEntity (h.plain entry hstored) (htells entry ?_)).symm
    have hpass := (List.mem_filter.mp hentry).2
    rw [h.selects_eq hstored hexact, Bool.and_eq_true] at hpass
    exact List.mem_filter.mpr ⟨hstored, hpass.2⟩
  show (((store.listApprovals filters).map fun entry => entry.2.shown entry.1).map
    (Shown.stored db)).Perm (((scanned.filter _).map _).map _)
  rw [List.map_map, List.map_map]
  refine (List.Perm.of_eq ?_).trans ((hscanned.filter _).map _).symm
  rw [hfiltered, List.map_map]
  exact List.map_congr_left hlisted

theorem simulates (db : Database) : Simulates Store.call (call db) (Agrees db) (SameAnswer db)
    (fun s call => Generated s call ∧ Interchangeable s call) := by
  intro store tables call h hmeets
  cases call with
  | create draw payload actorId => exact matches_create h hmeets.1 hmeets.2
  | update draw approvalId payload actorId => exact matches_update h hmeets.2
  | delete draw approvalId actorId => exact matches_delete h hmeets.2
  | appendAudit hex event => exact matches_append h hmeets.1 hmeets.2
  | list filters => exact matches_list h hmeets.2

end Simulation

end Postgres

/-! ### Runs -/

/-- In every run of calls that meet the conditions, each call is answered alike by both
repositories. -/
theorem repositories_interchangeable [PyRuntime] [PyNumerals] (db : Postgres.Database)
    {start s : Store × Postgres.Tables} {calls : List Call} {call : Call}
    (hstart : Postgres.Agrees db start.1 start.2)
    (hruns : Runs (Pair Store.call (Postgres.call db))
      (fun s call => Generated s call ∧ Interchangeable s call) start calls s)
    (hgenerated : Generated s call) (hcall : Interchangeable s call) :
    SameAnswer db (s.1.call call).1 (Postgres.call db s.2 call).1 :=
  (Postgres.simulates db).same hstart hruns ⟨hgenerated, hcall⟩

/-! ### Two reviews -/

section Sample

local instance sampleRuntimeInterchange : PyRuntime := .ascii (fun _ => .nan) (fun _ => [])

local instance sampleNumeralsInterchange : PyNumerals := ⟨fun _ => none, fun _ => none, id⟩

/-- Rows in the order of their insertion, and times without the final `Z`. -/
def sampleDatabase : Postgres.Database where
  scan rows := rows
  scan_perm _ := .rfl
  actedAtText t := if PlainText t.dropLast then t.dropLast else "0"
  actedAtText_ne_nil t := by
    split
    · rename_i hplain
      exact hplain.1
    · nofun
  strip_actedAtText t := by
    split
    · rename_i hplain
      exact hplain.2
    · rfl

/-- A request and its review, by a reviewer. -/
def sampleRequest : Call :=
  .create ⟨"1-1000", "2026-01-01T00:00:00Z"⟩
    [("rule_id", .text "rule"), ("comments", .text "please")]
    (some "requester")

def sampleReview (reviewer : String) : Call :=
  .update ⟨[], "2026-01-02T00:00:00Z"⟩ "1-1000"
    [("status", .text "approved")] (some reviewer.toList)

/-- The repositories after a call. -/
def samplePair (s : Store × Postgres.Tables) (call : Call) : Store × Postgres.Tables :=
  ((s.1.call call).2, (Postgres.call sampleDatabase s.2 call).2)

/-- Nothing is stored. -/
def sampleEmpty : Store × Postgres.Tables := (⟨[], []⟩, ⟨[], []⟩)

theorem agrees_sampleEmpty : Postgres.Agrees sampleDatabase sampleEmpty.1 sampleEmpty.2 :=
  ⟨rfl, List.nodup_nil, nofun, nofun, nofun⟩

theorem generated_sampleRequest : Generated sampleEmpty sampleRequest := by
  refine ⟨by decide, rfl, nofun, ?_⟩
  rintro ⟨_, hrow, -⟩
  cases hrow

/-- The review of a request is answered alike. -/
theorem repositories_interchangeable_of_review :
    SameAnswer sampleDatabase
      ((samplePair sampleEmpty sampleRequest).1.call (sampleReview "reviewer")).1
      (Postgres.call sampleDatabase (samplePair sampleEmpty sampleRequest).2
        (sampleReview "reviewer")).1 := by
  have hcreated : Interchangeable sampleEmpty sampleRequest := by
    rintro ⟨hstatus, -⟩
    revert hstatus
    decide +kernel
  have hruns : Runs (Pair Store.call (Postgres.call sampleDatabase))
      (fun s call => Generated s call ∧ Interchangeable s call) sampleEmpty [sampleRequest]
      (samplePair sampleEmpty sampleRequest) :=
    .one rfl ⟨generated_sampleRequest, hcreated⟩
  refine repositories_interchangeable sampleDatabase agrees_sampleEmpty hruns trivial ?_
  · refine ⟨by decide +kernel, ?_⟩
    intro existing hfind _
    have hstored : (samplePair sampleEmpty sampleRequest).1.find? "1-1000" =
        some (createdApproval ⟨"1-1000", "2026-01-01T00:00:00Z"⟩
          [("rule_id", .text "rule"), ("comments", .text "please")]
          (some "requester")) := by
      rfl
    cases hstored.symm.trans hfind
    refine ⟨by decide +kernel, .inr (.inr (by decide +kernel)), rfl, ?_⟩
    rintro _ ⟨⟩
    decide

/-- The second review of an approval is stored in memory and refused by the tables. -/
theorem second_review_refused :
    ¬ ∀ (db : Postgres.Database) (start s : Store × Postgres.Tables) (calls : List Call)
      (call : Call), Postgres.Agrees db start.1 start.2 →
      Runs (Pair Store.call (Postgres.call db)) Generated start calls s → Generated s call →
      SameAnswer db (s.1.call call).1 (Postgres.call db s.2 call).1 := by
  intro h
  have hruns : Runs (Pair Store.call (Postgres.call sampleDatabase)) Generated sampleEmpty
      [sampleRequest, sampleReview "reviewer"]
      (samplePair (samplePair sampleEmpty sampleRequest) (sampleReview "reviewer")) :=
    .cons rfl generated_sampleRequest (.one rfl trivial)
  have hsame := h sampleDatabase _ _ _ (sampleReview "auditor") agrees_sampleEmpty hruns trivial
  exact hsame

end Sample

end Approvals

end DqMadeEasy
