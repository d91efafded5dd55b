import DqMadeEasy.Approvals.Interchange
import DqMadeEasy.Logic.Replay
import DqMadeEasy.RunPlans.UseCases

/-!
# Comments on approvals

A comment is kept as the audit rows of what was asked of it. The thread is rebuilt on every read:
the rows are sorted by their time and their id, made into records, and merged by comment. The
endpoints read the thread to decide whether a request is allowed, and append one row.
-/

namespace DqMadeEasy

namespace Approvals

open Artifacts RunPlans Runs Sorted Worker

/-! ### Audit rows -/

/-- The action of an audit row, without white space around it. -/
inductive AuditAction where
  | created
  | approved
  | rejected
  | commented
  | commentUpdated
  | commentDeleted
  | commentResolved
  | commentReopened
  | commentAcknowledged
  | commentVotedUp
  | commentLocked
  | commentUnlocked
  | commentsLocked
  | commentsUnlocked
  | other (name : Text)
  deriving DecidableEq

/-- `ApprovalAuditEntity`. -/
structure AuditEntity where
  id : Text
  approvalId : Text
  action : AuditAction
  actorId : Option Text
  timestamp : Text
  details : Dict

def AuditEntity.key (row : AuditEntity) : Lex (Text × Text) := toLex (row.timestamp, row.id)

/-! ### Comments -/

/-- The states of a comment. -/
inductive CommentState where
  | new
  | acknowledgedByOwner
  | votedUp
  | resolved
  | reopened
  | locked
  deriving DecidableEq

def CommentState.text : CommentState → Text
  | .new => "new"
  | .acknowledgedByOwner => "acknowledged_by_owner"
  | .votedUp => "voted_up"
  | .resolved => "resolved"
  | .reopened => "reopened"
  | .locked => "locked"

def validCommentStates : List CommentState :=
  [.new, .acknowledgedByOwner, .votedUp, .resolved, .reopened, .locked]

/-- An entry of a comment thread. -/
structure CommentEntry where
  id : Text
  authorId : Option Text
  authorName : Text
  content : Text
  type : Text
  createdAt : Text
  state : CommentState := .new
  locked : Bool := false
  removed : Bool := false
  removedAt : Option Text := none
  removedBy : Option Text := none
  removedReason : Option Text := none
  edited : Bool := false
  editedAt : Option Text := none
  editedBy : Option Text := none
  editCount : ℤ := 0
  voteCount : ℤ := 0
  resolvedAt : Option Text := none
  resolvedBy : Option Text := none
  reopenedAt : Option Text := none
  reopenedBy : Option Text := none
  acknowledgedAt : Option Text := none
  acknowledgedBy : Option Text := none
  lockedAt : Option Text := none
  lockedBy : Option Text := none
  deriving DecidableEq

/-- The key by which a thread is sorted. -/
def CommentEntry.key (entry : CommentEntry) : Lex (Text × Text) := toLex (entry.createdAt, entry.id)

section Records

variable [PyRuntime] [PyNumerals]

def normalizeCommentState (value : Json) : CommentState :=
  let normalized := Text.replace ['-'] ['_'] (PyRuntime.lower value.strippedText)
  (validCommentStates.find? fun state => state.text == normalized).getD .new

def firstNonEmptyText (values : List Json) : Option Text :=
  values.findSome? fun value =>
    if value.isNone then none
    else match Text.strip value.str with
      | [] => none
      | c :: cs => some (c :: cs)

def coerceBool : Json → Bool
  | .scalar (.bool b) => b
  | .scalar .none => false
  | value => decide (PyRuntime.lower (Text.strip value.str) ∈
      ["1", "true", "yes", "on"].map String.toList)

omit [PyRuntime] in
/-- `coerce_int`. The infinite floats, on which `int` overflows, are no JSON numbers. -/
def coerceInt (value : Json) (default : ℤ) : ℤ := value.toInt?.getD default

def normalizeCommentText (details : Dict) (names : List String) : Option Text :=
  firstNonEmptyText (names.map details.get)

omit [PyRuntime] [PyNumerals] in
/-- The actions that `_normalize_comment_record` reads. -/
def AuditAction.records : AuditAction → Bool
  | .commentsLocked | .commentsUnlocked | .other _ => false
  | _ => true

omit [PyRuntime] [PyNumerals] in
/-- The actions that are recorded without a text. -/
def AuditAction.textless : AuditAction → Bool
  | .commentDeleted | .commentLocked | .commentUnlocked => true
  | _ => false

omit [PyRuntime] [PyNumerals] in
/-- The type of a comment that has none. -/
def AuditAction.defaultType : AuditAction → Text
  | .created | .approved | .rejected => "note"
  | _ => "general"

def normalizeCommentRecord (details : Dict) (row : AuditEntity) : Option CommentEntry :=
  let commentId := firstNonEmptyText
    [details.get "comment_id", details.get "commentId", .scalar (.str row.id)]
  let commentText := normalizeCommentText details ["comment", "comments", "content"]
  let authorId := firstNonEmptyText
    [details.get "author_id", details.get "authorId", optText row.actorId]
  let authorName := normalizeCommentText details
    ["author_name", "authorName", "requester_name", "requesterName"]
  let both (key key' : String) := firstNonEmptyText [details.get key, details.get key']
  if row.action.records = false then none
  else if commentText = none ∧ row.action.textless = false then none
  else some {
    id := commentId.getD row.id
    authorId := authorId
    authorName := (authorName.or authorId).getD "system"
    content := commentText.getD []
    type := (normalizeCommentText details ["comment_type", "commentType"]).getD
      row.action.defaultType
    createdAt := (firstNonEmptyText [details.get "created_at", details.get "createdAt",
      .scalar (.str row.timestamp)]).getD []
    state := if (details.get "state").isNone then .new
      else normalizeCommentState (details.get "state")
    locked := coerceBool (details.get "locked")
    removed := coerceBool (details.get "removed")
    removedAt := both "removed_at" "removedAt"
    removedBy := both "removed_by" "removedBy"
    removedReason := both "removed_reason" "removedReason"
    edited := coerceBool (details.get "edited")
    editedAt := both "edited_at" "editedAt"
    editedBy := both "edited_by" "editedBy"
    editCount := coerceInt (details.get "edit_count") 0
    voteCount := coerceInt (details.get "vote_count") 0
    resolvedAt := both "resolved_at" "resolvedAt"
    resolvedBy := both "resolved_by" "resolvedBy"
    reopenedAt := both "reopened_at" "reopenedAt"
    reopenedBy := both "reopened_by" "reopenedBy"
    acknowledgedAt := both "acknowledged_at" "acknowledgedAt"
    acknowledgedBy := both "acknowledged_by" "acknowledgedBy"
    lockedAt := both "locked_at" "lockedAt"
    lockedBy := both "locked_by" "lockedBy" }

def mergeCommentEvent (entry : CommentEntry) (details : Dict) (action : AuditAction)
    (timestamp : Text) (actorId : Option Text) : CommentEntry :=
  match action with
  | .commentUpdated => { entry with
      content := (firstNonEmptyText [details.get "comment", details.get "content"]).getD
        entry.content
      edited := true
      editedAt := some timestamp
      editedBy := actorId.or entry.editedBy
      editCount := entry.editCount + 1 }
  | .commentDeleted => { entry with
      removed := true
      removedAt := some timestamp
      removedBy := actorId.or entry.removedBy
      removedReason :=
        (firstNonEmptyText [details.get "removed_reason", details.get "reason"]).or
          entry.removedReason
      content := "[removed]" }
  | .commentResolved => { entry with
      state := .resolved
      resolvedAt := some timestamp
      resolvedBy := actorId.or entry.resolvedBy }
  | .commentReopened => { entry with
      state := .reopened
      reopenedAt := some timestamp
      reopenedBy := actorId.or entry.reopenedBy }
  | .commentAcknowledged => { entry with
      state := .acknowledgedByOwner
      acknowledgedAt := some timestamp
      acknowledgedBy := actorId.or entry.acknowledgedBy }
  | .commentVotedUp => { entry with
      state := .votedUp
      voteCount := entry.voteCount + 1 }
  | .commentLocked => { entry with
      locked := true
      state := .locked
      lockedAt := some timestamp
      lockedBy := actorId.or entry.lockedBy }
  | .commentUnlocked => { entry with
      locked := false
      lockedAt := none
      lockedBy := none
      state := if entry.state = .locked then .reopened else entry.state }
  | _ => entry

/-! ### Rebuilding the thread -/

/-- `str(row.actorId or "").strip() or None`. -/
def actorOf (actorId : Option Text) : Option Text := optionalText (optText actorId)

/-- The loop of `build_approval_comment_thread`. -/
def mergeAuditRow (entries : List (Text × CommentEntry)) (row : AuditEntity) :
    List (Text × CommentEntry) :=
  match row.action with
  | .commentsLocked | .commentsUnlocked => entries
  | _ =>
    match normalizeCommentRecord row.details row with
    | none => entries
    | some normalized =>
      Assoc.update normalized.id (fun entry => mergeCommentEvent (entry.getD normalized)
        row.details row.action row.timestamp (actorOf row.actorId)) entries

/-- `entries_by_id` after the loop. -/
def entriesById (rows : List AuditEntity) : List (Text × CommentEntry) :=
  (sortOn AuditEntity.key rows).foldl mergeAuditRow []

def buildApprovalCommentThread (rows : List AuditEntity) : List CommentEntry :=
  sortOn CommentEntry.key ((entriesById rows).map Prod.snd)

/-- What `build_approval_comment_governance` returns. -/
structure CommentGovernance where
  commentsLocked : Bool
  removedCommentCount : ℕ

/-- The loop of `build_approval_comment_governance`. -/
def governRow (governance : CommentGovernance) (row : AuditEntity) : CommentGovernance :=
  match row.action with
  | .commentsLocked => { governance with commentsLocked := true }
  | .commentsUnlocked => { governance with commentsLocked := false }
  | .commentDeleted =>
    if coerceBool (row.details.get "removed") then
      { governance with removedCommentCount := governance.removedCommentCount + 1 }
    else governance
  | _ => governance

def buildApprovalCommentGovernance (rows : List AuditEntity) : CommentGovernance :=
  (sortOn AuditEntity.key rows).foldl governRow ⟨false, 0⟩

end Records

/-! ### The repository -/

/-- The approvals by id, which are plain texts, and the audit rows, none of which has a blank id. -/
structure Board where
  approvals : List (Text × Approval)
  audit : List AuditEntity
  plain : ∀ entry ∈ approvals, PlainText entry.1
  named : ∀ row ∈ audit, Text.strip row.id ≠ []

/-- How a repository makes the id of a row: from the rows that it has, the approval and a hex text
that it draws. -/
structure RowIds where
  next : List AuditEntity → Text → Text → Text
  named : ∀ audit approvalId hex, Text.strip (next audit approvalId hex) ≠ []

namespace RowIds

/-- `f"{approval_id}-x-{len(self._audit) + 1}"`. -/
def inMemory : RowIds where
  next audit approvalId _ :=
    approvalId ++ "-x-" ++ (toString (audit.length + 1)).toList
  named _ _ _ :=
    Text.strip_ne_nil (c := '-') (List.mem_append_left _ (List.mem_append_right _ (by decide)))
      (by decide)

/-- `f"{approval_id}-x-{uuid4().hex}"`. -/
def postgres : RowIds where
  next _ approvalId hex := approvalId ++ "-x-" ++ hex
  named _ _ _ :=
    Text.strip_ne_nil (c := '-') (List.mem_append_left _ (List.mem_append_right _ (by decide)))
      (by decide)

end RowIds

def Board.rowsOf (board : Board) (approvalId : Text) : List AuditEntity :=
  board.audit.filter fun row => Text.strip row.approvalId == approvalId

/-! ### Requests -/

/-- The types of a comment that a request names. -/
inductive CommentType where
  | general
  | note
  | concern
  | question

def CommentType.text : CommentType → Text
  | .general => "general"
  | .note => "note"
  | .concern => "concern"
  | .question => "question"

/-- What is asked of the comments of an approval. -/
inductive CommentRequest where
  | append (workspaceId comment : Text) (commentType : CommentType)
  | lock (locked : Bool)
  | update (commentId comment : Text)
  | delete (commentId : Text)
  | resolve (commentId : Text)
  | reopen (commentId : Text)
  | acknowledge (commentId : Text)
  | voteUp (commentId : Text)

/-- What a request draws: the id of a comment, two readings of the clock and a hex text. -/
structure CommentDraw where
  commentId : Text
  utcNow : Text
  timestamp : Text
  hex : Text
  plain_commentId : PlainText commentId
  plain_timestamp : PlainText timestamp

/-- A request with who makes it. -/
structure CommentCall where
  approvalId : Text
  actorId : Option Text
  authClaims : Dict
  admin : Bool
  request : CommentRequest
  draw : CommentDraw

/-- An audit event: its action and its details. -/
structure CommentEvent where
  action : AuditAction
  details : Dict

section Endpoints

variable [PyRuntime] [PyNumerals]

/-- An approval as the repository lists it. -/
structure CurrentApproval where
  approval : Approval
  commentThread : List CommentEntry
  commentsLocked : Bool

def Board.approvalGetCurrent (board : Board) (approvalId : Text) :
    Except ApiError CurrentApproval :=
  match Assoc.find? board.approvals approvalId with
  | none => .error (httpError 404 "Not found")
  | some approval => .ok {
      approval := approval
      commentThread := buildApprovalCommentThread (board.rowsOf approvalId)
      commentsLocked := (buildApprovalCommentGovernance (board.rowsOf approvalId)).commentsLocked }

omit [PyRuntime] [PyNumerals] in
/-- `_approval_comment_lookup`, and the refusal when there is none. -/
def CurrentApproval.commentLookup (current : CurrentApproval) (commentId : Text) :
    Except ApiError CommentEntry :=
  match current.commentThread.find? fun comment => comment.id == commentId with
  | none => .error (httpError 404 "Not found")
  | some comment => .ok comment

def resolveCommentAuthorName (claims : Dict) (fallback : Text) : Text :=
  match (["name", "preferred_username", "email"].map fun key =>
      (claims.get key).strippedText).find? fun value => value ≠ [] with
  | some value => value
  | none => textOrElse ((Json.scalar (.str fallback)).orElse (.text "system")) "system"

omit [PyRuntime] [PyNumerals] in
/-- `str(comment.get("author_id") or "").strip() == str(actor_id).strip()`. -/
def IsAuthor (comment : CommentEntry) (actor : Text) : Prop :=
  strippedOr comment.authorId = Text.strip actor

instance (comment : CommentEntry) (actor : Text) : Decidable (IsAuthor comment actor) :=
  inferInstanceAs (Decidable (_ = _))

omit [PyRuntime] [PyNumerals] in
def OwnerAllows (approval : Approval) (actor : Text) : Prop :=
  strippedOr approval.requesterId = [] ∨ Text.strip actor = strippedOr approval.requesterId

instance (approval : Approval) (actor : Text) : Decidable (OwnerAllows approval actor) :=
  inferInstanceAs (Decidable (_ ∨ _))

omit [PyRuntime] [PyNumerals] in
/-- An event about a comment that is there. -/
def commentEvent (action : AuditAction) (comment : CommentEntry) (details : Dict) :
    CommentEvent where
  action := action
  details := entry "comment_id" (.scalar (.str comment.id)) :: (details ++
    [entry "author_id" (optText comment.authorId),
      entry "author_name" (.scalar (.str comment.authorName)),
      entry "comment_type" (.scalar (.str comment.type))])

/-- The event of a new comment. -/
def commentedEvent (call : CommentCall) (actor workspaceId comment : Text)
    (commentType : CommentType) : CommentEvent where
  action := .commented
  details := [entry "comment_id" (.scalar (.str call.draw.commentId)),
    entry "comment" (.scalar (.str (Text.strip comment))),
    entry "comment_type" (.scalar (.str commentType.text)),
    entry "state" (.text "new"),
    entry "author_id" (.scalar (.str actor)),
    entry "author_name" (.scalar (.str (resolveCommentAuthorName call.authClaims actor))),
    entry "workspace_id" (.scalar (.str (Text.strip workspaceId)))]

def appendApprovalComment (board : Board) (call : CommentCall) (actor workspaceId comment : Text)
    (commentType : CommentType) : Except ApiError CommentEvent := do
  if Text.strip comment = [] then
    throw (httpError 422 "comment must not be empty")
  else if Text.strip workspaceId = [] then
    throw (httpError 422 "workspace_id is required")
  else
    let current ← board.approvalGetCurrent call.approvalId
    if current.commentsLocked then
      throw (.http 409 [entry "detail" (.dict [entry "error" (.text "comments_locked"),
        entry "message" (.text "Comments are locked for this approval")])])
    else if Text.strip current.approval.workspaceId ≠ [] ∧
        Text.strip current.approval.workspaceId ≠ Text.strip workspaceId then
      throw (httpError 409 "approval does not belong to the requested workspace")
    else
      return commentedEvent call actor workspaceId comment commentType

/-- `update_approval_comments_lock`: no event where the lock is as asked. -/
def updateApprovalCommentsLock (board : Board) (call : CommentCall) (actor : Text)
    (locked : Bool) : Except ApiError (Option CommentEvent) := do
  let current ← board.approvalGetCurrent call.approvalId
  if ¬OwnerAllows current.approval actor ∧ call.admin = false then
    throw (httpError 403 "Only the approval owner or an admin can lock comments")
  else if locked = current.commentsLocked then
    return none
  else
    return some {
      action := if locked then .commentsLocked else .commentsUnlocked
      details := [entry "comments_locked" (.scalar (.bool locked)),
        entry "actor_name" (.scalar (.str (resolveCommentAuthorName call.authClaims actor)))] }

def updateApprovalComment (board : Board) (call : CommentCall) (actor commentId comment : Text) :
    Except ApiError CommentEvent := do
  let current ← board.approvalGetCurrent call.approvalId
  let found ← current.commentLookup commentId
  if found.removed then
    throw (httpError 409 "comment has been removed")
  else if ¬IsAuthor found actor then
    throw (httpError 403 "Only the comment author can edit this comment")
  else if Text.strip comment = [] then
    throw (httpError 422 "comment must not be empty")
  else
    return commentEvent .commentUpdated found
      [entry "comment" (.scalar (.str (Text.strip comment))),
        entry "edited" (.scalar (.bool true)),
        entry "edited_at" (.scalar (.str call.draw.utcNow)),
        entry "edited_by" (.scalar (.str actor))]

omit [PyRuntime] [PyNumerals] in
def removedReason (comment : CommentEntry) (actor : Text) : String :=
  if IsAuthor comment actor then "removed by author" else "removed by admin"

def deleteApprovalComment (board : Board) (call : CommentCall) (actor commentId : Text) :
    Except ApiError CommentEvent := do
  let current ← board.approvalGetCurrent call.approvalId
  let found ← current.commentLookup commentId
  if ¬IsAuthor found actor ∧ call.admin = false then
    throw (httpError 403 "Only the comment author or an admin can remove this comment")
  else
    return commentEvent .commentDeleted found
      [entry "removed" (.scalar (.bool true)),
        entry "removed_reason" (.text (removedReason found actor))]

/-- A change of the state of a comment by its author. -/
def settleComment (action : AuditAction) (verb : String) (board : Board) (call : CommentCall)
    (actor commentId : Text) (details : Dict) : Except ApiError CommentEvent := do
  let current ← board.approvalGetCurrent call.approvalId
  let found ← current.commentLookup commentId
  if ¬IsAuthor found actor then
    throw (httpError 403 ("Only the comment author can " ++ verb.toList ++
      " this comment"))
  else
    return commentEvent action found details

def resolveApprovalComment (board : Board) (call : CommentCall) (actor commentId : Text) :
    Except ApiError CommentEvent :=
  settleComment .commentResolved "resolve" board call actor commentId
    [entry "resolved_at" (.scalar (.str call.draw.utcNow)),
      entry "resolved_by" (.scalar (.str actor))]

def reopenApprovalComment (board : Board) (call : CommentCall) (actor commentId : Text) :
    Except ApiError CommentEvent :=
  settleComment .commentReopened "reopen" board call actor commentId
    [entry "reopened_at" (.scalar (.str call.draw.utcNow)),
      entry "reopened_by" (.scalar (.str actor))]

/-- `acknowledge_approval_comment`: the owner is asked for before the comment. -/
def acknowledgeApprovalComment (board : Board) (call : CommentCall) (actor commentId : Text) :
    Except ApiError CommentEvent := do
  let current ← board.approvalGetCurrent call.approvalId
  if ¬OwnerAllows current.approval actor ∧ call.admin = false then
    throw (httpError 403 "Only the approval owner or an admin can acknowledge comments")
  else
    let found ← current.commentLookup commentId
    return commentEvent .commentAcknowledged found
      [entry "acknowledged_at" (.scalar (.str call.draw.utcNow)),
        entry "acknowledged_by" (.scalar (.str actor))]

def voteUpApprovalComment (board : Board) (call : CommentCall) (commentId : Text) :
    Except ApiError CommentEvent := do
  let current ← board.approvalGetCurrent call.approvalId
  let found ← current.commentLookup commentId
  if found.removed then
    throw (httpError 409 "comment has been removed")
  else
    return commentEvent .commentVotedUp found
      [entry "vote_count" (.int (found.voteCount + 1))]

/-- The event that an accepted request appends, if it appends one. -/
def Board.respond (board : Board) (call : CommentCall) : Except ApiError (Option CommentEvent) :=
  let actor := call.actorId.getD []
  if actor = [] then .error (httpError 401 "Not authenticated")
  else match call.request with
    | .append workspaceId comment commentType =>
      some <$> appendApprovalComment board call actor workspaceId comment commentType
    | .lock locked => updateApprovalCommentsLock board call actor locked
    | .update commentId comment => some <$> updateApprovalComment board call actor commentId comment
    | .delete commentId => some <$> deleteApprovalComment board call actor commentId
    | .resolve commentId => some <$> resolveApprovalComment board call actor commentId
    | .reopen commentId => some <$> reopenApprovalComment board call actor commentId
    | .acknowledge commentId => some <$> acknowledgeApprovalComment board call actor commentId
    | .voteUp commentId => some <$> voteUpApprovalComment board call commentId

omit [PyRuntime] [PyNumerals] in
/-- The row of an event. -/
def Board.newRow (board : Board) (ids : RowIds) (call : CommentCall) (event : CommentEvent) :
    AuditEntity where
  id := ids.next board.audit call.approvalId call.draw.hex
  approvalId := call.approvalId
  action := event.action
  actorId := call.actorId
  timestamp := call.draw.timestamp
  details := event.details

omit [PyRuntime] [PyNumerals] in
def Board.appendAuditEvent (board : Board) (ids : RowIds) (call : CommentCall)
    (event : CommentEvent) : Board :=
  { board with
    audit := board.audit ++ [board.newRow ids call event]
    named := by
      intro row hrow
      obtain hrow | hrow := List.mem_append.mp hrow
      · exact board.named row hrow
      · rw [List.mem_singleton.mp hrow]
        exact ids.named board.audit call.approvalId call.draw.hex }

def Board.serve (board : Board) (ids : RowIds) (call : CommentCall) : Board :=
  match board.respond call with
  | .error _ | .ok none => board
  | .ok (some event) => board.appendAuditEvent ids call event

end Endpoints

end Approvals

end DqMadeEasy
