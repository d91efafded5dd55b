import DqMadeEasy.Approvals.Comments
import DqMadeEasy.Logic.Grouping

/-!
# The discussion of an approval and its replay

A discussion is what the requests make of the comments of an approval, one after the other. It is
what the audit rows give back as long as nobody settles a comment or votes for it, and the row of a
request comes after the rows of what it changes: a row that only names its comment is no record of
a comment and is passed over.
-/

namespace DqMadeEasy

namespace Approvals

open Artifacts Replay RunPlans Runs Sorted Transition Worker

/-! ### The discussion -/

/-- The comments of an approval by id, and whether they are locked. -/
structure Discussion where
  comments : List (Text × CommentEntry)
  locked : Bool

def Discussion.thread (d : Discussion) : List CommentEntry :=
  sortOn CommentEntry.key (d.comments.map Prod.snd)

section Discussion

variable [PyRuntime] [PyNumerals]

/-- The comment that a request adds. -/
def newComment (call : CommentCall) (comment : Text) (commentType : CommentType) :
    CommentEntry where
  id := call.draw.commentId
  authorId := actorOf call.actorId
  authorName := resolveCommentAuthorName call.authClaims (call.actorId.getD [])
  content := Text.strip comment
  type := commentType.text
  createdAt := call.draw.timestamp

/-- An event merged into the comment that it is about. -/
def Discussion.merge (d : Discussion) (call : CommentCall) (commentId : Text)
    (action : AuditAction) (details : CommentEntry → Dict) : Discussion :=
  match Assoc.find? d.comments commentId with
  | none => d
  | some comment => { d with
      comments := Assoc.update commentId (fun _ => mergeCommentEvent comment (details comment)
        action call.draw.timestamp (actorOf call.actorId)) d.comments }

/-- The discussion after a request that is accepted. -/
def Discussion.accept (d : Discussion) (call : CommentCall) : Discussion :=
  match call.request with
  | .append _ comment commentType => { d with
      comments := d.comments ++ [(call.draw.commentId, newComment call comment commentType)] }
  | .lock locked => { d with locked := locked }
  | .update commentId comment => d.merge call commentId .commentUpdated fun _ =>
      [entry "comment" (.scalar (.str (Text.strip comment)))]
  | .delete commentId => d.merge call commentId .commentDeleted fun found =>
      [entry "removed_reason" (.text (removedReason found (call.actorId.getD [])))]
  | .resolve commentId => d.merge call commentId .commentResolved fun _ => []
  | .reopen commentId => d.merge call commentId .commentReopened fun _ => []
  | .acknowledge commentId => d.merge call commentId .commentAcknowledged fun _ => []
  | .voteUp commentId => d.merge call commentId .commentVotedUp fun _ => []

def discussionOf (rows : List AuditEntity) : Discussion where
  comments := entriesById rows
  locked := (buildApprovalCommentGovernance rows).commentsLocked

/-- The discussions after a request: those of the other approvals stay. -/
def serveDiscussions (board : Board) (call : CommentCall) (discussions : Text → Discussion) :
    Text → Discussion :=
  match board.respond call with
  | .error _ => discussions
  | .ok _ => Function.update discussions call.approvalId
      ((discussions call.approvalId).accept call)

def Serves (ids : RowIds) (s : Board × (Text → Discussion)) (call : CommentCall)
    (s' : Board × (Text → Discussion)) : Prop :=
  s' = (s.1.serve ids call, serveDiscussions s.1 call s.2)

/-! ### The condition -/

def readAuditRow (row : AuditEntity) : Option (Text × (Option CommentEntry → CommentEntry)) :=
  (normalizeCommentRecord row.details row).map fun normalized =>
    (normalized.id, fun entry => mergeCommentEvent (entry.getD normalized) row.details row.action
      row.timestamp (actorOf row.actorId))

omit [PyRuntime] [PyNumerals] in
def AuditEntity.setsLock (row : AuditEntity) : Bool :=
  row.action = .commentsLocked || row.action = .commentsUnlocked

/-- The id that is drawn for a comment is that of no comment of the approval. -/
def Fresh (board : Board) (call : CommentCall) : Prop :=
  match call.request with
  | .append .. => ∀ row ∈ board.rowsOf call.approvalId,
      subject readAuditRow row ≠ some call.draw.commentId
  | _ => True

/-- The request is none that settles a comment or votes for it, and its row comes after the rows of
the comment that it changes, or of the lock. -/
def Recorded (board : Board) (ids : RowIds) (call : CommentCall) : Prop :=
  let newKey := toLex (call.draw.timestamp, ids.next board.audit call.approvalId call.draw.hex)
  match call.request with
  | .append .. => True
  | .lock _ => ∀ row ∈ board.rowsOf call.approvalId, row.setsLock = true → row.key ≤ newKey
  | .update commentId _ | .delete commentId => ∀ row ∈ board.rowsOf call.approvalId,
      subject readAuditRow row = some commentId → row.key ≤ newKey
  | .resolve _ | .reopen _ | .acknowledge _ | .voteUp _ => False

/-- The id of a comment is fresh, and what an accepted request appends is recorded. -/
def Faithful (ids : RowIds) (s : Board × (Text → Discussion)) (call : CommentCall) : Prop :=
  Fresh s.1 call ∧ ∀ event, s.1.respond call = .ok (some event) → Recorded s.1 ids call

end Discussion

/-! ### Reading rows -/

section Reading

variable [PyRuntime] [PyNumerals] {rows : List AuditEntity} {row : AuditEntity} {t : Text}

theorem firstNonEmptyText_plain {values : List Json} :
    ∀ t ∈ firstNonEmptyText values, PlainText t := by
  intro t ht
  obtain ⟨value, -, hvalue⟩ := List.exists_of_findSome?_eq_some ht
  split at hvalue
  · cases hvalue
  · split at hvalue
    · cases hvalue
    · rename_i c cs hstrip
      cases hvalue
      refine ⟨nofun, ?_⟩
      rw [← hstrip]
      exact Text.strip_strip _

theorem firstNonEmptyText_cons (h : PlainText t) (values : List Json) :
    firstNonEmptyText (.scalar (.str t) :: values) = some t := by
  have hstr : (Json.scalar (.str t)).str = t := rfl
  rw [firstNonEmptyText, List.findSome?_cons, hstr, h.2]
  cases t with
  | nil => exact absurd rfl h.1
  | cons c cs => rfl

theorem firstNonEmptyText_cons_blank (h : Text.strip t = []) (values : List Json) :
    firstNonEmptyText (.scalar (.str t) :: values) = firstNonEmptyText values := by
  have hstr : (Json.scalar (.str t)).str = t := rfl
  rw [firstNonEmptyText, List.findSome?_cons, hstr, h]
  rfl

theorem firstNonEmptyText_of_ne (h : Text.strip t ≠ []) (values : List Json) :
    firstNonEmptyText (.scalar (.str t) :: values) = some (Text.strip t) := by
  have hstr : (Json.scalar (.str t)).str = t := rfl
  rw [firstNonEmptyText, List.findSome?_cons, hstr]
  cases hstrip : Text.strip t with
  | nil => exact absurd hstrip h
  | cons c cs => rfl

theorem mergeAuditRow_eq : mergeAuditRow = mergeRow readAuditRow := by
  funext entries row
  rw [mergeAuditRow, mergeRow, readAuditRow]
  have hlock : row.action.records = false → normalizeCommentRecord row.details row = none :=
    fun hrecords => if_pos hrecords
  cases haction : row.action with
  | commentsLocked | commentsUnlocked =>
    rw [hlock (by rw [haction]; rfl)]
    rfl
  | _ => cases normalizeCommentRecord row.details row <;> rfl

theorem entriesById_eq (rows : List AuditEntity) :
    entriesById rows = replay AuditEntity.key readAuditRow rows := by
  rw [entriesById, mergeAuditRow_eq]
  rfl

omit [PyRuntime] in
theorem id_mergeCommentEvent [PyRuntime] (comment : CommentEntry) (details : Dict)
    (action : AuditAction) (timestamp : Text) (actorId : Option Text) :
    (mergeCommentEvent comment details action timestamp actorId).id = comment.id := by
  cases action <;> rfl

end Reading

/-! ### What is appended -/

section Appended

variable [PyRuntime] [PyNumerals] {board : Board} {call : CommentCall} {event : CommentEvent}

def Board.Finds (board : Board) (call : CommentCall) (comment : CommentEntry) : Prop :=
  comment ∈ buildApprovalCommentThread (board.rowsOf call.approvalId)

/-- What an accepted request appends. -/
inductive Appends (board : Board) (call : CommentCall) : CommentRequest → CommentEvent → Prop
  | append {workspaceId comment : Text} {commentType : CommentType} :
      Text.strip comment ≠ [] → Appends board call (.append workspaceId comment commentType)
        (commentedEvent call (call.actorId.getD []) workspaceId comment commentType)
  | lock {locked : Bool} {details : Dict} :
      Appends board call (.lock locked)
        ⟨if locked then .commentsLocked else .commentsUnlocked, details⟩
  | update {comment : Text} {found : CommentEntry} {details : Dict} :
      board.Finds call found → Text.strip comment ≠ [] →
      Appends board call (.update found.id comment) (commentEvent .commentUpdated found
        (entry "comment" (.scalar (.str (Text.strip comment))) :: details))
  | delete {found : CommentEntry} : board.Finds call found →
      Appends board call (.delete found.id) (commentEvent .commentDeleted found
        [entry "removed" (.scalar (.bool true)),
          entry "removed_reason" (.text (removedReason found (call.actorId.getD [])))])
  | resolve {found : CommentEntry} {at' actor : Text} :
      Appends board call (.resolve found.id) (commentEvent .commentResolved found
        [entry "resolved_at" (.scalar (.str at')), entry "resolved_by" (.scalar (.str actor))])
  | reopen {found : CommentEntry} {at' actor : Text} :
      Appends board call (.reopen found.id) (commentEvent .commentReopened found
        [entry "reopened_at" (.scalar (.str at')), entry "reopened_by" (.scalar (.str actor))])
  | acknowledge {found : CommentEntry} {at' actor : Text} :
      Appends board call (.acknowledge found.id) (commentEvent .commentAcknowledged found
        [entry "acknowledged_at" (.scalar (.str at')),
          entry "acknowledged_by" (.scalar (.str actor))])
  | voteUp {found : CommentEntry} :
      Appends board call (.voteUp found.id) (commentEvent .commentVotedUp found
        [entry "vote_count" (.int (found.voteCount + 1))])

variable {current : CurrentApproval} {commentId : Text}

theorem approvalGetCurrent_ok (h : board.approvalGetCurrent call.approvalId = .ok current) :
    (∃ approval, (call.approvalId, approval) ∈ board.approvals) ∧
      current.commentThread = buildApprovalCommentThread (board.rowsOf call.approvalId) ∧
      current.commentsLocked =
        (buildApprovalCommentGovernance (board.rowsOf call.approvalId)).commentsLocked := by
  rw [Board.approvalGetCurrent] at h
  cases hfind : Assoc.find? board.approvals call.approvalId with
  | none =>
    rw [hfind] at h
    cases h
  | some approval =>
    rw [hfind] at h
    cases h
    exact ⟨⟨approval, Assoc.mem_of_find? hfind⟩, rfl, rfl⟩

omit [PyRuntime] [PyNumerals] in
theorem commentLookup_ok {found : CommentEntry} (h : current.commentLookup commentId = .ok found) :
    found ∈ current.commentThread ∧ found.id = commentId := by
  rw [CurrentApproval.commentLookup] at h
  cases hfind : current.commentThread.find? fun comment => comment.id == commentId with
  | none =>
    rw [hfind] at h
    cases h
  | some comment =>
    rw [hfind] at h
    cases h
    exact ⟨List.mem_of_find?_eq_some hfind, beq_iff_eq.mp (List.find?_some hfind :)⟩

/-- The two look-ups of a request about a comment. -/
theorem finds_of_lookup {found : CommentEntry}
    (hcurrent : board.approvalGetCurrent call.approvalId = .ok current)
    (hfound : current.commentLookup commentId = .ok found) :
    board.Finds call found ∧ found.id = commentId := by
  obtain ⟨-, hthread, -⟩ := approvalGetCurrent_ok hcurrent
  obtain ⟨hmem, hid⟩ := commentLookup_ok hfound
  rw [Board.Finds, ← hthread]
  exact ⟨hmem, hid⟩

theorem found_of_bind {event : CommentEvent}
    {respond : CurrentApproval → CommentEntry → Except ApiError CommentEvent} (h : (do
      let current ← board.approvalGetCurrent call.approvalId
      let found ← current.commentLookup commentId
      respond current found) = .ok event) :
    ∃ current found, board.approvalGetCurrent call.approvalId = .ok current ∧
      board.Finds call found ∧ found.id = commentId ∧ respond current found = .ok event := by
  obtain ⟨current, hcurrent, h⟩ := ok_of_bind h
  obtain ⟨found, hlookup, h⟩ := ok_of_bind h
  obtain ⟨hfinds, hid⟩ := finds_of_lookup hcurrent hlookup
  exact ⟨current, found, hcurrent, hfinds, hid, h⟩

theorem ok_of_settleComment {action : AuditAction} {verb : String} {actor : Text} {details : Dict}
    (h : settleComment action verb board call actor commentId details = .ok event) :
    ∃ found, (∃ current, board.approvalGetCurrent call.approvalId = .ok current) ∧
      found.id = commentId ∧ event = commentEvent action found details := by
  obtain ⟨current, found, hcurrent, -, hid, h⟩ := found_of_bind h
  split at h
  · cases h
  · cases h
    exact ⟨found, ⟨current, hcurrent⟩, hid, rfl⟩

omit [PyRuntime] [PyNumerals] in
theorem ok_of_map_some {answer : Except ApiError CommentEvent}
    (h : some <$> answer = .ok (some event)) : answer = .ok event := by
  cases answer with
  | error e => cases h
  | ok appended =>
    cases h
    rfl

/-- What the board appends for a request, and that it has found the approval. -/
theorem respond_some (h : board.respond call = .ok (some event)) :
    (∃ current, board.approvalGetCurrent call.approvalId = .ok current) ∧
      call.actorId.getD [] ≠ [] ∧ Appends board call call.request event := by
  rw [Board.respond] at h
  split at h
  · cases h
  rename_i hactor
  cases hrequest : call.request with
  | append workspaceId comment commentType =>
    rw [hrequest] at h
    replace h := ok_of_map_some h
    rw [appendApprovalComment] at h
    split at h
    · cases h
    rename_i hcomment
    split at h
    · cases h
    obtain ⟨current, hcurrent, h⟩ := ok_of_bind h
    split at h
    · cases h
    split at h
    · cases h
    cases h
    exact ⟨⟨current, hcurrent⟩, hactor, .append hcomment⟩
  | lock locked =>
    rw [hrequest] at h
    obtain ⟨current, hcurrent, h⟩ := ok_of_bind h
    split at h
    · cases h
    split at h
    · cases h
    cases h
    exact ⟨⟨current, hcurrent⟩, hactor, .lock⟩
  | update commentId comment =>
    rw [hrequest] at h
    replace h := found_of_bind (ok_of_map_some h)
    obtain ⟨current, found, hcurrent, hfinds, rfl, h⟩ := h
    split at h
    · cases h
    split at h
    · cases h
    split at h
    · cases h
    rename_i hcomment
    cases h
    exact ⟨⟨current, hcurrent⟩, hactor, .update hfinds hcomment⟩
  | delete commentId =>
    rw [hrequest] at h
    replace h := found_of_bind (ok_of_map_some h)
    obtain ⟨current, found, hcurrent, hfinds, rfl, h⟩ := h
    split at h
    · cases h
    cases h
    exact ⟨⟨current, hcurrent⟩, hactor, .delete hfinds⟩
  | resolve commentId =>
    rw [hrequest] at h
    obtain ⟨found, hcurrent, rfl, rfl⟩ := ok_of_settleComment (ok_of_map_some h)
    exact ⟨hcurrent, hactor, .resolve⟩
  | reopen commentId =>
    rw [hrequest] at h
    obtain ⟨found, hcurrent, rfl, rfl⟩ := ok_of_settleComment (ok_of_map_some h)
    exact ⟨hcurrent, hactor, .reopen⟩
  | acknowledge commentId =>
    rw [hrequest] at h
    replace h := ok_of_bind (ok_of_map_some h)
    obtain ⟨current, hcurrent, h⟩ := h
    split at h
    · cases h
    replace h := ok_of_bind h
    obtain ⟨found, hlookup, h⟩ := h
    cases h
    obtain ⟨-, rfl⟩ := finds_of_lookup hcurrent hlookup
    exact ⟨⟨current, hcurrent⟩, hactor, .acknowledge⟩
  | voteUp commentId =>
    rw [hrequest] at h
    replace h := found_of_bind (ok_of_map_some h)
    obtain ⟨current, found, hcurrent, -, rfl, h⟩ := h
    split at h
    · cases h
    cases h
    exact ⟨⟨current, hcurrent⟩, hactor, .voteUp⟩

/-- A request that is accepted and appends nothing asks for the lock that is there. -/
theorem respond_none (h : board.respond call = .ok none) : ∃ locked, call.request = .lock locked ∧
    locked = (buildApprovalCommentGovernance (board.rowsOf call.approvalId)).commentsLocked := by
  have hmap : ∀ answer : Except ApiError CommentEvent, some <$> answer ≠ .ok none := by
    intro answer hnone
    cases answer <;> cases hnone
  rw [Board.respond] at h
  split at h
  · cases h
  cases hrequest : call.request with
  | lock locked =>
    rw [hrequest] at h
    obtain ⟨current, hcurrent, h⟩ := ok_of_bind h
    obtain ⟨-, -, hlocked⟩ := approvalGetCurrent_ok hcurrent
    split at h
    · cases h
    split at h
    · rename_i hsame
      exact ⟨locked, rfl, hsame.trans hlocked⟩
    · cases h
  | _ =>
    rw [hrequest] at h
    exact absurd h (hmap _)

end Appended

/-! ### The rows that are appended -/

section Rows

variable [PyRuntime] [PyNumerals] {board : Board} {ids : RowIds} {call : CommentCall}

theorem plain_resolveCommentAuthorName (claims : Dict) (fallback : Text) :
    PlainText (resolveCommentAuthorName claims fallback) := by
  rw [resolveCommentAuthorName]
  split
  · rename_i value hfound
    have hne : value ≠ [] := of_decide_eq_true (List.find?_some hfound :)
    obtain ⟨key, -, rfl⟩ := List.mem_map.mp (List.mem_of_find?_eq_some hfound)
    exact ⟨hne, Json.strip_strippedText _⟩
  · exact Postgres.plain_textOrElse _ (by decide)

/-- The author that the row of a comment tells. -/
theorem authorId_commentedEvent (hactor : call.actorId.getD [] ≠ []) :
    firstNonEmptyText [.scalar (.str (call.actorId.getD [])), .scalar .none,
      optText call.actorId] = actorOf call.actorId := by
  cases hid : call.actorId with
  | none =>
    rw [hid] at hactor
    exact absurd rfl hactor
  | some actor =>
    rw [hid] at hactor
    have hne : actor ≠ [] := hactor
    have hstripped : (Json.scalar (.str actor)).strippedText = Text.strip actor :=
      if_pos (bne_iff_ne.mpr hne)
    show firstNonEmptyText (.scalar (.str actor) :: _) = optionalText (.scalar (.str actor))
    rw [optionalText, hstripped]
    cases hstrip : Text.strip actor with
    | nil =>
      rw [firstNonEmptyText_cons_blank hstrip]
      exact firstNonEmptyText_cons_blank hstrip []
    | cons c cs =>
      rw [firstNonEmptyText_of_ne (by rw [hstrip]; exact List.cons_ne_nil c cs), hstrip]

theorem normalizeCommentState_new : normalizeCommentState (.text "new") = .new := by
  have hstripped : (Json.text "new").strippedText = "new" := rfl
  have hascii : ("new".toList.all fun c => decide (c.toNat < 128)) = true := rfl
  have hlower : PyRuntime.lower "new" = "new" :=
    PyRuntime.lower_ascii _ fun c hc => of_decide_eq_true (List.all_eq_true.mp hascii c hc)
  rw [normalizeCommentState, hstripped, hlower]
  rfl

/-- The row of a new comment is read as the comment. -/
theorem normalizeCommentRecord_commented {workspaceId comment : Text} {commentType : CommentType}
    {row : AuditEntity} (hactor : call.actorId.getD [] ≠ []) (hcomment : Text.strip comment ≠ [])
    (hrow : row = board.newRow ids call
      (commentedEvent call (call.actorId.getD []) workspaceId comment commentType)) :
    normalizeCommentRecord row.details row = some (newComment call comment commentType) := by
  have hplain : PlainText (Text.strip comment) := ⟨hcomment, Text.strip_strip comment⟩
  have hname := plain_resolveCommentAuthorName call.authClaims (call.actorId.getD [])
  have htype : PlainText commentType.text := by cases commentType <;> decide
  have hid : firstNonEmptyText [row.details.get "comment_id", row.details.get "commentId",
      .scalar (.str row.id)] = some call.draw.commentId := by
    rw [hrow]
    exact firstNonEmptyText_cons call.draw.plain_commentId _
  have htext : normalizeCommentText row.details ["comment", "comments", "content"] =
      some (Text.strip comment) := by
    rw [hrow]
    exact firstNonEmptyText_cons hplain _
  have hauthor : firstNonEmptyText [row.details.get "author_id", row.details.get "authorId",
      optText row.actorId] = actorOf call.actorId := by
    rw [hrow]
    exact authorId_commentedEvent hactor
  have hauthorName : normalizeCommentText row.details
      ["author_name", "authorName", "requester_name", "requesterName"] =
        some (resolveCommentAuthorName call.authClaims (call.actorId.getD [])) := by
    rw [hrow]
    exact firstNonEmptyText_cons hname _
  have htypeName : normalizeCommentText row.details ["comment_type", "commentType"] =
      some commentType.text := by
    rw [hrow]
    exact firstNonEmptyText_cons htype _
  have hcreated : firstNonEmptyText [row.details.get "created_at", row.details.get "createdAt",
      .scalar (.str row.timestamp)] = some call.draw.timestamp := by
    rw [hrow]
    exact firstNonEmptyText_cons call.draw.plain_timestamp []
  have hstate : (if (row.details.get "state").isNone then .new
      else normalizeCommentState (row.details.get "state")) = CommentState.new := by
    rw [hrow]
    exact normalizeCommentState_new
  rw [normalizeCommentRecord]
  dsimp only
  rw [hid, htext, hauthor, hauthorName, htypeName, hcreated, hstate, hrow]
  rfl

theorem readAuditRow_commented {workspaceId comment : Text} {commentType : CommentType}
    (hactor : call.actorId.getD [] ≠ []) (hcomment : Text.strip comment ≠ []) :
    readAuditRow (board.newRow ids call
        (commentedEvent call (call.actorId.getD []) workspaceId comment commentType)) =
      some (call.draw.commentId, fun entry =>
        entry.getD (newComment call comment commentType)) := by
  rw [readAuditRow, normalizeCommentRecord_commented hactor hcomment rfl]
  rfl

variable (board ids call) in
/-- The row of an event that is a record of its comment is merged into the comment. -/
theorem readAuditRow_commentEvent {action : AuditAction} {found : CommentEntry} {details : Dict}
    (hplain : PlainText found.id) (hrecords : action.records = true)
    (htext : action.textless = true ∨
      normalizeCommentText (commentEvent action found details).details
        ["comment", "comments", "content"] ≠ none) :
    ∃ merge, readAuditRow (board.newRow ids call (commentEvent action found details)) =
        some (found.id, merge) ∧
      ∀ comment, merge (some comment) = mergeCommentEvent comment
        (commentEvent action found details).details action call.draw.timestamp
        (actorOf call.actorId) := by
  have hid := firstNonEmptyText_cons hplain
    [(commentEvent action found details).details.get "commentId",
      .scalar (.str (ids.next board.audit call.approvalId call.draw.hex))]
  rw [readAuditRow, normalizeCommentRecord]
  dsimp only
  have hnone : ¬(normalizeCommentText (board.newRow ids call
      (commentEvent action found details)).details ["comment", "comments", "content"] = none ∧
        (board.newRow ids call (commentEvent action found details)).action.textless = false) := by
    rintro ⟨hmissing, htextless⟩
    obtain htext | htext := htext
    · exact absurd htext (Bool.eq_false_iff.mp htextless)
    · exact htext hmissing
  have hread : ¬(board.newRow ids call (commentEvent action found details)).action.records =
      false := by
    show ¬action.records = false
    rw [hrecords]
    exact nofun
  rw [if_neg hread, if_neg hnone]
  refine ⟨_, congrArg some (Prod.ext ?_ rfl), fun comment => rfl⟩
  exact congrArg (fun read => Option.getD read _) hid

end Rows

/-! ### The rows give back the discussion -/

section Agreement

variable [PyRuntime] [PyNumerals] {rows : List AuditEntity} {row : AuditEntity} {d : Discussion}

/-- The loop over the rows ends with the last row that sets the lock. -/
theorem commentsLocked_foldl (governance : CommentGovernance) :
    (rows.foldl governRow governance).commentsLocked =
      (rows.filter AuditEntity.setsLock).foldl (fun _ row => row.action == .commentsLocked)
        governance.commentsLocked := by
  induction rows generalizing governance with
  | nil => rfl
  | cons row rows ih =>
    rw [List.foldl_cons, ih]
    cases haction : row.action with
    | commentsLocked | commentsUnlocked =>
      have hsets : row.setsLock = true := by
        rw [AuditEntity.setsLock, haction]
        rfl
      rw [List.filter_cons_of_pos hsets, List.foldl_cons, governRow, haction]
      rfl
    | commentDeleted =>
      have hsets : ¬row.setsLock = true := by
        rw [AuditEntity.setsLock, haction]
        exact nofun
      rw [List.filter_cons_of_neg hsets, governRow, haction]
      dsimp only
      split <;> rfl
    | _ =>
      have hsets : ¬row.setsLock = true := by
        rw [AuditEntity.setsLock, haction]
        exact nofun
      rw [List.filter_cons_of_neg hsets, governRow, haction]

theorem commentsLocked_eq (rows : List AuditEntity) :
    (buildApprovalCommentGovernance rows).commentsLocked =
      (history AuditEntity.key AuditEntity.setsLock rows).foldl
        (fun _ row => row.action == .commentsLocked) false :=
  commentsLocked_foldl _

theorem commentsLocked_append_of_not (h : row.setsLock = false) :
    (buildApprovalCommentGovernance (rows ++ [row])).commentsLocked =
      (buildApprovalCommentGovernance rows).commentsLocked := by
  rw [commentsLocked_eq, commentsLocked_eq, history_append_of_not h]

theorem commentsLocked_append (h : row.setsLock = true)
    (hlast : ∀ other ∈ rows, other.setsLock = true → other.key ≤ row.key) :
    (buildApprovalCommentGovernance (rows ++ [row])).commentsLocked =
      (row.action == .commentsLocked) := by
  rw [commentsLocked_eq, history_append h hlast, List.foldl_concat]

/-- The rows give back the discussion. -/
structure Matches (rows : List AuditEntity) (d : Discussion) : Prop where
  comments : ∀ commentId,
    Assoc.find? (entriesById rows) commentId = Assoc.find? d.comments commentId
  distinct : (Assoc.keys d.comments).Nodup
  locked : (buildApprovalCommentGovernance rows).commentsLocked = d.locked

theorem matches_discussionOf (rows : List AuditEntity) : Matches rows (discussionOf rows) where
  comments _ := rfl
  distinct := by
    show (Assoc.keys (entriesById rows)).Nodup
    rw [entriesById_eq]
    exact nodup_keys_replay
  locked := rfl

/-- A comment has a plain id, since the id of its row is not blank. -/
theorem plain_normalizeCommentRecord {details : Dict} {normalized : CommentEntry}
    (h : normalizeCommentRecord details row = some normalized) (hnamed : Text.strip row.id ≠ []) :
    PlainText normalized.id := by
  rw [normalizeCommentRecord] at h
  dsimp only at h
  split at h
  · cases h
  split at h
  · cases h
  cases h
  dsimp only
  cases hfirst : firstNonEmptyText
      [details.get "comment_id", details.get "commentId", .scalar (.str row.id)] with
  | some t => exact firstNonEmptyText_plain t hfirst
  | none =>
    rw [firstNonEmptyText, List.findSome?_eq_none_iff] at hfirst
    have hlast := hfirst (.scalar (.str row.id)) (by simp)
    have hid := firstNonEmptyText_of_ne hnamed []
    rw [firstNonEmptyText, List.findSome?_cons, hlast] at hid
    cases hid

/-- An entry is kept under its id, which is plain. -/
theorem entry_plain (hnamed : ∀ row ∈ rows, Text.strip row.id ≠ []) {commentId : Text}
    {comment : CommentEntry} (hfind : Assoc.find? (entriesById rows) commentId = some comment) :
    comment.id = commentId ∧ PlainText commentId := by
  rw [entriesById_eq] at hfind
  refine replay_induction (motive := fun commentId comment =>
    comment.id = commentId ∧ PlainText commentId) ?_ commentId comment hfind
  intro row hrow commentId merge hread entry hentry
  obtain ⟨normalized, hnormalized, heffect⟩ := Option.map_eq_some_iff.mp hread
  cases heffect
  refine ⟨?_, ?_⟩
  · rw [id_mergeCommentEvent]
    cases entry with
    | none => rfl
    | some comment => exact (hentry comment rfl).1
  · exact plain_normalizeCommentRecord hnormalized (hnamed row hrow)

/-- The thread of the rows is the thread of the discussion. -/
theorem Matches.thread (h : Matches rows d) (hnamed : ∀ row ∈ rows, Text.strip row.id ≠ []) :
    buildApprovalCommentThread rows = d.thread := by
  have hdistinct : (Assoc.keys (entriesById rows)).Nodup := (matches_discussionOf rows).distinct
  have hperm : (entriesById rows).Perm d.comments :=
    Assoc.perm_of_find?_eq hdistinct h.distinct h.comments
  apply sortOn_eq_of_perm (hperm.map Prod.snd)
  -- The ids, which are part of the keys, are the keys of the entries.
  have hids : ((entriesById rows).map Prod.snd).map CommentEntry.id =
      Assoc.keys (entriesById rows) := by
    rw [List.map_map]
    apply List.map_congr_left
    rintro ⟨commentId, comment⟩ hentry
    exact (entry_plain hnamed (Assoc.find?_of_mem hdistinct hentry)).1
  have hnodup := hdistinct
  rw [← hids] at hnodup
  have hkeys : ((entriesById rows).map Prod.snd).map CommentEntry.id =
      (((entriesById rows).map Prod.snd).map CommentEntry.key).map fun key => (ofLex key).2 := by
    simp only [List.map_map]
    rfl
  rw [hkeys] at hnodup
  exact hnodup.of_map

theorem find?_of_mem_thread (hnamed : ∀ row ∈ rows, Text.strip row.id ≠ [])
    {comment : CommentEntry} (hmem : comment ∈ buildApprovalCommentThread rows) :
    Assoc.find? (entriesById rows) comment.id = some comment ∧ PlainText comment.id := by
  obtain ⟨⟨commentId, found⟩, hentry, rfl⟩ := List.mem_map.mp (mem_sortOn.mp hmem)
  have hfind := Assoc.find?_of_mem (matches_discussionOf rows).distinct hentry
  obtain ⟨hid, hplain⟩ := entry_plain hnamed hfind
  dsimp only at hid ⊢
  rw [hid]
  exact ⟨hfind, hplain⟩

/-- A row that comes last among those of its comment is merged into the discussion. -/
theorem Matches.record (h : Matches rows d) {comments : List (Text × CommentEntry)}
    {commentId : Text} {merge : Option CommentEntry → CommentEntry}
    (hread : readAuditRow row = some (commentId, merge)) (hlock : row.setsLock = false)
    (hlast : ∀ other ∈ rows, subject readAuditRow other = some commentId → other.key ≤ row.key)
    (hdistinct : (Assoc.keys comments).Nodup)
    (hcomments : ∀ commentId', Assoc.find? comments commentId' =
      if commentId = commentId' then some (merge (Assoc.find? d.comments commentId))
      else Assoc.find? d.comments commentId') :
    Matches (rows ++ [row]) { d with comments := comments } where
  comments commentId' := by
    rw [hcomments, entriesById_eq]
    split
    · rename_i hsame
      rw [← hsame, find?_replay_append hread hlast, ← entriesById_eq, h.comments]
    · rename_i hother
      have hne : subject readAuditRow row ≠ some commentId' := by
        rw [subject, hread]
        exact fun heq => hother (Option.some.inj heq)
      rw [find?_replay_append_of_ne hne, ← entriesById_eq, h.comments]
  distinct := hdistinct
  locked := by
    rw [commentsLocked_append_of_not hlock]
    exact h.locked

/-- An event about a comment that is there is merged into it by the rows and by the discussion. -/
theorem Matches.merge {board : Board} {ids : RowIds} {call : CommentCall} {action : AuditAction}
    {found : CommentEntry} {details : Dict} {told : CommentEntry → Dict}
    (h : Matches (board.rowsOf call.approvalId) d) (hfinds : board.Finds call found)
    (hrecords : action.records = true)
    (hlock : action ≠ .commentsLocked ∧ action ≠ .commentsUnlocked)
    (htext : action.textless = true ∨
      normalizeCommentText (commentEvent action found details).details
        ["comment", "comments", "content"] ≠ none)
    (hmerge : mergeCommentEvent found (commentEvent action found details).details action
        call.draw.timestamp (actorOf call.actorId) =
      mergeCommentEvent found (told found) action call.draw.timestamp (actorOf call.actorId))
    (hlast : ∀ row ∈ board.rowsOf call.approvalId, subject readAuditRow row = some found.id →
      row.key ≤ (board.newRow ids call (commentEvent action found details)).key) :
    Matches (board.rowsOf call.approvalId ++
        [board.newRow ids call (commentEvent action found details)])
      (d.merge call found.id action told) := by
  have hnamed : ∀ row ∈ board.rowsOf call.approvalId, Text.strip row.id ≠ [] :=
    fun row hrow => board.named row (List.mem_filter.mp hrow).1
  obtain ⟨hentry, hplain⟩ := find?_of_mem_thread hnamed hfinds
  have hthere : Assoc.find? d.comments found.id = some found :=
    (h.comments found.id).symm.trans hentry
  obtain ⟨merge, hread, hmerges⟩ :=
    readAuditRow_commentEvent board ids call hplain hrecords htext
  have hsets : (board.newRow ids call (commentEvent action found details)).setsLock = false := by
    show (decide (action = .commentsLocked) || decide (action = .commentsUnlocked)) = false
    rw [decide_eq_false hlock.1, decide_eq_false hlock.2]
    rfl
  rw [Discussion.merge, hthere]
  dsimp only
  refine h.record hread hsets hlast (Assoc.nodup_keys_update h.distinct) ?_
  intro commentId'
  rw [Assoc.find?_update, hthere, hmerges, hmerge]

end Agreement

/-! ### Runs -/

section Runs

variable [PyRuntime] [PyNumerals] {board : Board} {ids : RowIds} {call : CommentCall}
  {event : CommentEvent} {discussions : Text → Discussion}

omit [PyRuntime] [PyNumerals] in
theorem rowsOf_appendAuditEvent (hplain : PlainText call.approvalId) (approvalId : Text) :
    (board.appendAuditEvent ids call event).rowsOf approvalId =
      if approvalId = call.approvalId then
        board.rowsOf approvalId ++ [board.newRow ids call event]
      else board.rowsOf approvalId := by
  have hstrip : Text.strip (board.newRow ids call event).approvalId = call.approvalId := hplain.2
  show (board.audit ++ [_]).filter _ = _
  rw [List.filter_append, List.filter_singleton, hstrip]
  by_cases hsame : approvalId = call.approvalId
  · rw [if_pos hsame, hsame, beq_self_eq_true]
    rfl
  · rw [if_neg hsame, beq_eq_false_iff_ne.mpr (Ne.symm hsame)]
    exact List.append_nil _

/-- What is appended for an accepted request gives back what the request makes of the
discussion. -/
theorem matches_accept {d : Discussion} (h : Matches (board.rowsOf call.approvalId) d)
    (hresponse : board.respond call = .ok (some event)) (hfresh : Fresh board call)
    (hrecorded : Recorded board ids call) :
    Matches (board.rowsOf call.approvalId ++ [board.newRow ids call event]) (d.accept call) := by
  obtain ⟨-, hactor, happends⟩ := respond_some hresponse
  rw [Discussion.accept]
  rw [Fresh] at hfresh
  rw [Recorded] at hrecorded
  generalize call.request = request at happends hfresh hrecorded ⊢
  cases happends with
  | @append workspaceId comment commentType hcomment =>
    have hnone : Assoc.find? d.comments call.draw.commentId = none := by
      rw [← h.comments, entriesById_eq]
      exact find?_replay_eq_none hfresh
    have hupdate := Assoc.update_of_find?_none (f := fun _ => newComment call comment commentType)
      hnone
    dsimp only
    rw [← hupdate]
    refine h.record (readAuditRow_commented hactor hcomment) rfl
      (fun row hrow hsame => absurd hsame (hfresh row hrow))
      (Assoc.nodup_keys_update h.distinct) ?_
    intro commentId
    rw [Assoc.find?_update, hnone]
    rfl
  | @lock locked details =>
    have hread : readAuditRow (board.newRow ids call
        ⟨if locked then .commentsLocked else .commentsUnlocked, details⟩) = none := by
      have hrecord : normalizeCommentRecord details (board.newRow ids call
          ⟨if locked then .commentsLocked else .commentsUnlocked, details⟩) = none := by
        cases locked <;> rfl
      rw [readAuditRow]
      exact congrArg (Option.map _) hrecord
    have hsets : (board.newRow ids call
        ⟨if locked then .commentsLocked else .commentsUnlocked, details⟩).setsLock = true := by
      cases locked <;> rfl
    refine ⟨fun commentId => ?_, h.distinct, ?_⟩
    · have hne : subject readAuditRow (board.newRow ids call
          ⟨if locked then .commentsLocked else .commentsUnlocked, details⟩) ≠ some commentId := by
        rw [subject, hread]
        exact (Option.some_ne_none commentId).symm
      rw [entriesById_eq, find?_replay_append_of_ne hne, ← entriesById_eq]
      exact h.comments commentId
    · rw [commentsLocked_append hsets hrecorded]
      cases locked <;> rfl
  | @update comment found details hfinds hcomment =>
    have hplain : PlainText (Text.strip comment) := ⟨hcomment, Text.strip_strip comment⟩
    have htext : normalizeCommentText (commentEvent .commentUpdated found
        (entry "comment" (.scalar (.str (Text.strip comment))) :: details)).details
        ["comment", "comments", "content"] = some (Text.strip comment) :=
      firstNonEmptyText_cons hplain _
    have hstored : firstNonEmptyText [(commentEvent .commentUpdated found
        (entry "comment" (.scalar (.str (Text.strip comment))) :: details)).details.get "comment",
        (commentEvent .commentUpdated found
        (entry "comment" (.scalar (.str (Text.strip comment))) :: details)).details.get "content"] =
          some (Text.strip comment) := firstNonEmptyText_cons hplain _
    have htold : firstNonEmptyText
        [Dict.get [entry "comment" (.scalar (.str (Text.strip comment)))] "comment",
          Dict.get [entry "comment" (.scalar (.str (Text.strip comment)))] "content"] =
            some (Text.strip comment) := firstNonEmptyText_cons hplain _
    refine h.merge hfinds rfl (by decide) (.inr ?_) ?_ hrecorded
    · rw [htext]
      exact Option.some_ne_none _
    · rw [mergeCommentEvent, mergeCommentEvent, hstored, htold]
  | @delete found hfinds =>
    exact h.merge hfinds rfl (by decide) (.inl rfl) rfl hrecorded
  | resolve | reopen | acknowledge | voteUp => exact absurd hrecorded id

/-- What the rows give back stays what the requests make of the discussions. -/
theorem matches_serve (hmatches : ∀ approvalId,
      Matches (board.rowsOf approvalId) (discussions approvalId))
    (hfaithful : Faithful ids (board, discussions) call) (approvalId : Text) :
    Matches ((board.serve ids call).rowsOf approvalId)
      (serveDiscussions board call discussions approvalId) := by
  rw [Board.serve, serveDiscussions]
  cases hresponse : board.respond call with
  | error e => exact hmatches approvalId
  | ok appended =>
    have hother : approvalId ≠ call.approvalId → Function.update discussions call.approvalId
        ((discussions call.approvalId).accept call) approvalId = discussions approvalId :=
      fun hne => Function.update_of_ne hne _ _
    cases appended with
    | none =>
      obtain ⟨locked, hrequest, hlocked⟩ := respond_none hresponse
      by_cases hsame : approvalId = call.approvalId
      · have hthere := hmatches call.approvalId
        dsimp only
        rw [hsame, Function.update_self, Discussion.accept, hrequest]
        dsimp only
        rw [hlocked, hthere.locked]
        exact hthere
      · dsimp only
        rw [hother hsame]
        exact hmatches approvalId
    | some event =>
      obtain ⟨⟨current, hcurrent⟩, -, -⟩ := respond_some hresponse
      obtain ⟨⟨approval, happroval⟩, -, -⟩ := approvalGetCurrent_ok hcurrent
      have hplain : PlainText call.approvalId := board.plain _ happroval
      dsimp only
      rw [rowsOf_appendAuditEvent hplain]
      by_cases hsame : approvalId = call.approvalId
      · rw [if_pos hsame, hsame, Function.update_self]
        exact matches_accept (hmatches call.approvalId) hresponse hfaithful.1
          (hfaithful.2 event hresponse)
      · rw [if_neg hsame, hother hsame]
        exact hmatches approvalId

/-- In every run whose accepted requests are recorded, the thread and the lock that the audit rows
give back are those of the requests in the order of their acceptance. -/
theorem comments_replayed {start s : Board × (Text → Discussion)} {calls : List CommentCall}
    (hstart : ∀ approvalId, start.2 approvalId = discussionOf (start.1.rowsOf approvalId))
    (hruns : Runs (Serves ids) (Faithful ids) start calls s) (approvalId : Text) :
    buildApprovalCommentThread (s.1.rowsOf approvalId) = (s.2 approvalId).thread ∧
      (buildApprovalCommentGovernance (s.1.rowsOf approvalId)).commentsLocked =
        (s.2 approvalId).locked := by
  have hmatches : ∀ approvalId, Matches (s.1.rowsOf approvalId) (s.2 approvalId) := by
    refine hruns.invariant (I := fun s => ∀ approvalId,
      Matches (s.1.rowsOf approvalId) (s.2 approvalId)) ?_ ?_
    · intro approvalId
      rw [hstart]
      exact matches_discussionOf _
    · rintro ⟨board, discussions⟩ call s' hall hstep hfaithful approvalId
      rw [hstep]
      exact matches_serve hall hfaithful approvalId
  have hnamed : ∀ row ∈ s.1.rowsOf approvalId, Text.strip row.id ≠ [] :=
    fun row hrow => s.1.named row (List.mem_filter.mp hrow).1
  exact ⟨(hmatches approvalId).thread hnamed, (hmatches approvalId).locked⟩

end Runs

/-! ### A vote that is not counted -/

section Sample

local instance sampleRuntimeComments : PyRuntime := .ascii (fun _ => .nan) (fun _ => [])

local instance sampleNumeralsComments : PyNumerals := ⟨fun _ => none, fun _ => none, id⟩

/-- An approval without audit rows. -/
def sampleBoard : Board where
  approvals := [("1-1",
    { businessKey := [], ruleId := "rule", gxRunPlanId := none, gxRunPlanVersionId := none
      status := "pending", requesterId := some "requester"
      workspaceId := "default", requestType := "activation"
      effectiveStatus := none, effectiveAt := none, comments := none, requestedAt := none
      reviewedBy := none, reviewedAt := none })]
  audit := []
  plain := by
    intro entry hentry
    rw [List.mem_singleton.mp hentry]
    decide
  named := nofun

/-- A request of the reviewer at a second. -/
def sampleCall (second : Char) (request : CommentRequest) : CommentCall where
  approvalId := "1-1"
  actorId := some "reviewer"
  authClaims := []
  admin := false
  request := request
  draw := {
    commentId := "c"
    utcNow := []
    timestamp := "2026-01-01T00:00:0" ++ [if isSpace second then '0' else second]
    hex := []
    plain_commentId := by decide
    plain_timestamp := by
      refine ⟨nofun, Text.strip_eq_self ?_ ?_⟩
      · rintro _ ⟨⟩
        decide
      · intro c hc
        rw [List.getLast?_concat] at hc
        cases hc
        split
        · decide
        · rename_i hspace
          exact Bool.eq_false_iff.mpr hspace }

def sampleComment : CommentCall :=
  sampleCall '1' (.append "default" "why?" .question)

def sampleServed (s : Board × (Text → Discussion)) (call : CommentCall) :
    Board × (Text → Discussion) :=
  (s.1.serve .inMemory call, serveDiscussions s.1 call s.2)

def sampleDiscussed : Board × (Text → Discussion) :=
  (sampleBoard, fun approvalId => discussionOf (sampleBoard.rowsOf approvalId))

/-- After the comment, and after the change of it. -/
def sampleCommented : Board × (Text → Discussion) := sampleServed sampleDiscussed sampleComment

def sampleUpdate : CommentCall := sampleCall '2' (.update "c" "why not?")

/-- A comment and its change are given back. -/
theorem comments_replayed_of_update :
    let updated := sampleServed sampleCommented sampleUpdate
    buildApprovalCommentThread (updated.1.rowsOf "1-1") =
      (updated.2 "1-1").thread := by
  intro updated
  have hruns : Runs (Serves .inMemory) (Faithful .inMemory) sampleDiscussed
      [sampleComment, sampleUpdate] updated := by
    refine .cons rfl ⟨nofun, fun _ _ => trivial⟩ (.one rfl ⟨trivial, fun event _ => ?_⟩)
    show ∀ row ∈ sampleCommented.1.rowsOf "1-1",
      subject readAuditRow row = some "c".toList → row.key ≤ _
    decide +kernel
  exact (comments_replayed (fun _ => rfl) hruns "1-1").1

/-- The vote for a comment is accepted and not counted. -/
theorem vote_not_counted :
    ¬ ∀ (ids : RowIds) (start s : Board × (Text → Discussion)) (calls : List CommentCall)
      (approvalId : Text),
      (∀ approvalId, start.2 approvalId = discussionOf (start.1.rowsOf approvalId)) →
      Runs (Serves ids) (fun s call => Fresh s.1 call) start calls s →
      buildApprovalCommentThread (s.1.rowsOf approvalId) = (s.2 approvalId).thread ∧
        (buildApprovalCommentGovernance (s.1.rowsOf approvalId)).commentsLocked =
          (s.2 approvalId).locked := by
  intro h
  have hruns : Runs (Serves .inMemory) (fun s call => Fresh s.1 call) sampleDiscussed
      [sampleComment, sampleCall '2' (.voteUp "c")]
      (sampleServed sampleCommented (sampleCall '2' (.voteUp "c"))) :=
    .cons rfl nofun (.one rfl trivial)
  have hthread := (h .inMemory sampleDiscussed _ _ "1-1" (fun _ => rfl) hruns).1
  revert hthread
  decide +kernel

end Sample

end Approvals

end DqMadeEasy
