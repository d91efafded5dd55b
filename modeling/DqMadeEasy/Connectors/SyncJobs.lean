import DqMadeEasy.Lifecycle.Governance
import DqMadeEasy.Connectors.SyncSchedules

/-!
# Sync jobs of connectors

Users create and cancel jobs, workers claim pending jobs and write the statuses of those they run. A
claim locks its row. A cancellation reads the status in one transaction, and the status writer reads
the row and writes it back without looking at what it replaces, so others may write in between.
-/

namespace DqMadeEasy

namespace Connectors

namespace SyncJobs

open Lifecycle Worker

/-! ### Statuses -/

/-- `ConnectorJobStatus`. -/
inductive JobStatus where
  | pending | running | completed | failed | cancelled | retrying
  deriving DecidableEq, Repr

namespace JobStatus

/-- The text of a status. -/
def value : JobStatus → Text
  | .pending => "pending"
  | .running => "running"
  | .completed => "completed"
  | .failed => "failed"
  | .cancelled => "cancelled"
  | .retrying => "retrying"

/-- `status in ("completed", "failed", "cancelled")`. -/
def isFinal : JobStatus → Bool
  | .completed | .failed | .cancelled => true
  | .pending | .running | .retrying => false

end JobStatus

def connectorSyncJobStatusTransitions : List StatusTransitionDefinition :=
  [transition "queued" "running" [],
   transition "queued" "failed" [],
   transition "queued" "cancelled" [],
   transition "running" "completed" [],
   transition "running" "failed" [],
   transition "running" "cancelled" []]

section Governance

variable [PyRuntime]

/-- `_is_transition_defined_for_entity`, for the sync jobs. -/
def isTransitionDefined (fromStatus toStatus : Text) : Bool :=
  connectorSyncJobStatusTransitions.any fun t =>
    decide (normalizeStatusValue (some t.fromStatus) = normalizeStatusValue (some fromStatus)) &&
      decide (normalizeStatusValue (some t.toStatus) = normalizeStatusValue (some toStatus))

/-- The table allows the move. -/
def Governed (before after : JobStatus) : Prop :=
  isTransitionDefined before.value after.value = true

/-- The table's name of a status: it calls a job that waits `queued`. -/
def governanceName : JobStatus → Text
  | .pending => "queued"
  | status => status.value

/-- The table allows the move of a job that waits, or of one that does not. -/
def GovernedAs (before after : JobStatus) : Prop :=
  isTransitionDefined (governanceName before) after.value = true

end Governance

/-! ### The table of the jobs -/

/-- A row of `connector_sync_jobs`. -/
structure JobRow where
  id : Text
  provider : Text
  status : JobStatus
  retryCount : ℤ
  startedAt : Option Instant
  completedAt : Option Instant
  createdAt : Instant
  deriving DecidableEq

/-- What `update_status` assigns to the row that it loaded. -/
def JobRow.withStatus (row : JobRow) (status : JobStatus) (now : Instant) : JobRow where
  id := row.id
  provider := row.provider
  status := status
  retryCount :=
    if status = .failed ∧ row.startedAt.isSome then row.retryCount + 1 else row.retryCount
  startedAt :=
    if status = .running ∨ status = .retrying then some (row.startedAt.getD now) else row.startedAt
  completedAt := if status.isFinal then some now else row.completedAt
  createdAt := row.createdAt

/-- The `UPDATE` of a commit: the columns whose value is another than the one that was loaded. -/
def JobRow.writeBack (loaded assigned current : JobRow) : JobRow where
  id := current.id
  provider := current.provider
  status := if assigned.status = loaded.status then current.status else assigned.status
  retryCount :=
    if assigned.retryCount = loaded.retryCount then current.retryCount else assigned.retryCount
  startedAt :=
    if assigned.startedAt = loaded.startedAt then current.startedAt else assigned.startedAt
  completedAt :=
    if assigned.completedAt = loaded.completedAt then current.completedAt else assigned.completedAt
  createdAt := current.createdAt

/-- A change of the status of a job. -/
structure Change where
  id : Text
  before : JobStatus
  after : JobStatus

/-- The connector instances with their providers, the jobs, and a record of the changes of statuses,
the claims, and the cancellations that were answered. -/
structure Store where
  instances : List (Text × Text)
  jobs : List JobRow
  changes : List Change
  claims : List Text
  cancelled : List Text

namespace Store

/-- There is no job. -/
def initial : Store := ⟨[], [], [], [], []⟩

def job? (s : Store) (id : Text) : Option JobRow := Keyed.find? JobRow.id s.jobs id

/-- The store with another row of a job, when there is one. -/
def write (s : Store) (row : JobRow) : Store :=
  match s.job? row.id with
  | some before => { s with
      jobs := Keyed.replace JobRow.id row s.jobs
      changes := if before.status = row.status then s.changes
        else s.changes ++ [⟨row.id, before.status, row.status⟩] }
  | none => s

/-- The row that `claim_pending` selects: the first pending one that no other transaction has
locked. -/
def nextPending (s : Store) (provider : Text) (locked : List Text) : Option JobRow :=
  (Sorted.sortOn JobRow.createdAt (s.jobs.filter fun row =>
    decide (row.status = .pending) && (provider = [] || row.provider = provider) &&
      !decide (row.id ∈ locked))).head?

end Store

/-! ### The callers -/

/-- For whom a status is written. -/
inductive Purpose where
  | cancel | update
  deriving DecidableEq

/-- The transactions. -/
inductive Call where
  /-- `get_instance`. -/
  | getInstance (connectorInstanceId : Text)
  /-- `create_job`. -/
  | createJob (row : JobRow)
  /-- The `select` of `get_job` and of `update_status`. -/
  | selectJob (jobId : Text)
  /-- The commit of `update_status`, with the row that it loaded. -/
  | commitStatus (purpose : Purpose) (loaded : JobRow) (status : JobStatus)
  /-- `claim_pending`. -/
  | claimPending (provider : Text)

/-- The type of the answer of a call. -/
abbrev Call.Answer : Call → Type
  | .getInstance _ => Option Text
  | .createJob _ => Unit
  | .selectJob _ => Option JobRow
  | .commitStatus .. => Unit
  | .claimPending _ => Option JobRow

/-- How a call goes: a read may raise; a write has its time; a claim passes over the rows that other
transactions have locked. -/
abbrev Call.How : Call → Type
  | .getInstance _ | .selectJob _ => Option PyError
  | .createJob _ => Pool.Fate PyError Unit
  | .commitStatus .. => Instant × Pool.Fate PyError Unit
  | .claimPending _ => Instant × List Text × Pool.Fate PyError Unit

/-- What a caller does. -/
abbrev Work (α : Type) := Program Call Call.Answer PyError α

def make (call : Call) : Work call.Answer := .perform call

/-- A `ValueError`. -/
def valueError {α : Type} (message : String) : Work α := .raise (.builtin "ValueError" message)

section Source

variable [PyRuntime]

/-- `str(provider).strip().lower()`. -/
def normalizeProvider (provider : Text) : Text := PyRuntime.lower (Text.strip provider)

/-- `create_sync_job`, with the identifier and the time of the job. -/
def createSyncJob (connectorInstanceId jobId : Text) (now : Instant) : Work Unit := do
  match ← make (.getInstance connectorInstanceId) with
  | none => valueError "connector instance not found"
  | some provider =>
    make (.createJob ⟨Text.strip jobId, normalizeProvider provider, .pending, 0, none, none, now⟩)

omit [PyRuntime] in
def getJob (jobId : Text) : Work (Option JobRow) :=
  if jobId = [] then pure none else make (.selectJob (Text.strip jobId))

omit [PyRuntime] in
/-- `update_status`: whether there is such a job. -/
def updateStatus (purpose : Purpose) (jobId : Text) (status : JobStatus) : Work Bool :=
  if jobId = [] then pure false
  else do
    match ← make (.selectJob (Text.strip jobId)) with
    | none => pure false
    | some loaded =>
      make (.commitStatus purpose loaded status)
      pure true

omit [PyRuntime] in
def cancelSyncJob (jobId : Text) : Work Unit := do
  match ← getJob jobId with
  | none => valueError "sync job not found"
  | some job =>
    if job.status ≠ .pending ∧ job.status ≠ .retrying then valueError "cannot cancel job"
    else
      let updated ← updateStatus .cancel jobId .cancelled
      if updated then pure () else valueError "sync job not found during cancel"

/-- What users and workers ask for. -/
inductive Request where
  | create (connectorInstanceId jobId : Text) (now : Instant)
  | cancel (jobId : Text)
  | claim (provider : Text)
  | update (jobId : Text) (status : JobStatus)

/-- The program of a request. -/
def Request.program : Request → Work Unit
  | .create connectorInstanceId jobId now => createSyncJob connectorInstanceId jobId now
  | .cancel jobId => cancelSyncJob jobId
  | .claim provider => do
    let _ ← make (.claimPending (normalizeProvider provider))
    pure ()
  | .update jobId status => do
    let _ ← updateStatus .update jobId status
    pure ()

omit [PyRuntime] in
/-- The effect of a call, in the way that it goes. -/
def Store.perform : (call : Call) → call.How → Store → Except PyError call.Answer × Store
  | .getInstance id, how, s =>
    match how with
    | some exc => (.error exc, s)
    | none => (.ok (Assoc.find? s.instances id), s)
  | .selectJob id, how, s =>
    match how with
    | some exc => (.error exc, s)
    | none => (.ok (s.job? id), s)
  | .createJob row, fate, s =>
    if (s.job? row.id).isSome then
      (.error (.builtin "IntegrityError" "connector_sync_jobs"), s)
    else
      (fate.answer, if fate.effective then { s with jobs := s.jobs ++ [row] } else s)
  | .commitStatus purpose loaded status, (now, fate), s =>
    match s.job? loaded.id with
    | none => (.error (.builtin "StaleDataError" "connector_sync_jobs"), s)
    | some current =>
      let written := s.write (loaded.writeBack (loaded.withStatus status now) current)
      (fate.answer,
        if fate.effective then { written with
          -- A cancellation whose commit is answered is answered.
          cancelled := match purpose, fate.answer with
            | .cancel, .ok _ => written.cancelled ++ [loaded.id]
            | _, _ => written.cancelled }
        else s)
  | .claimPending provider, (now, locked, fate), s =>
    match s.nextPending provider locked with
    | none => (fate.answer.map fun _ => none, s)
    | some row =>
      let claimed := { row with status := .running, startedAt := some now }
      (fate.answer.map fun _ => some claimed,
        if fate.effective then
          let written := s.write claimed
          { written with claims := written.claims ++ [row.id] }
        else s)

/-- The callers, and the instances that are there. -/
def site : Pool.Workplace Request Store Call Call.Answer PyError Call.How (Text × Text) where
  program := Request.program
  begin_ _ s := some s
  perform := Store.perform
  outside entry s := { s with instances := entry :: s.instances }

end Source

abbrev Callers (Id : Type) := Pool Id Request Store Call Call.Answer PyError

/-- The labels of their steps. -/
abbrev Event (Id : Type) := Pool.Event Id Request Call Call.How (Text × Text)

/-! ### The law -/

section Law

variable [PyRuntime]

/-- The claim's law. Every change of a status is one that the table allows, no final status changes,
no job is claimed twice, and a job whose cancellation was answered was never set running. -/
structure JobMachine (s : Store) : Prop where
  governed : ∀ c ∈ s.changes, Governed c.before c.after
  final : ∀ c ∈ s.changes, c.before.isFinal = false
  claimedOnce : s.claims.Nodup
  notRun : ∀ id ∈ s.cancelled, ∀ c ∈ s.changes, c.id = id → c.after ≠ .running

/-- The law but for the name of the first status. -/
structure JobMachineAs (s : Store) : Prop where
  governed : ∀ c ∈ s.changes, GovernedAs c.before c.after
  final : ∀ c ∈ s.changes, c.before.isFinal = false
  claimedOnce : s.claims.Nodup
  notRun : ∀ id ∈ s.cancelled, ∀ c ∈ s.changes, c.id = id → c.after ≠ .running

omit [PyRuntime] in
/-- The steps that change no status: a claim finds no pending job, and a status that is written is
the one that was loaded or the one that the row has. -/
def Unchanging {Id : Type} (p : Callers Id) : Event Id → Prop
  | .call _ (.claimPending provider) (_, locked, fate) => fate.effective = true →
    p.shared.nextPending provider locked = none
  | .call _ (.commitStatus _ loaded status) (_, fate) => fate.effective = true →
    ∀ current, p.shared.job? loaded.id = some current →
      status = loaded.status ∨ status = current.status
  | _ => True

/-- The steps that keep the law but for the name of the first status. A status is written over one
from which the table allows it, and a cancellation finds the row as it was loaded, pending, or a job
whose cancellation was answered before. -/
def Guarded {Id : Type} (p : Callers Id) : Event Id → Prop
  | .call _ (.commitStatus purpose loaded status) (_, fate) => fate.effective = true →
    ∀ current, p.shared.job? loaded.id = some current →
      (status = loaded.status ∨ status = current.status ∨ GovernedAs current.status status) ∧
      (purpose = .cancel → (loaded.status = .pending ∧ current.status = .pending) ∨
        loaded.id ∈ p.shared.cancelled)
  | _ => True

end Law

/-! ### What the table allows -/

section Table

variable [PyRuntime]

omit [PyRuntime] in
theorem isStatusText_value (status : JobStatus) : isStatusText status.value = true := by
  cases status <;> decide

omit [PyRuntime] in
theorem isStatusText_governanceName (status : JobStatus) :
    isStatusText (governanceName status) = true := by
  cases status <;> decide

theorem isTransitionDefined_eq {fromStatus toStatus : Text} (hfrom : isStatusText fromStatus = true)
    (hto : isStatusText toStatus = true) :
    isTransitionDefined fromStatus toStatus = connectorSyncJobStatusTransitions.any fun t =>
      decide (t.fromStatus = fromStatus) && decide (t.toStatus = toStatus) := by
  have hall : connectorSyncJobStatusTransitions.all (fun t =>
      isStatusText t.fromStatus && isStatusText t.toStatus) = true := by decide
  rw [isTransitionDefined, normalizeStatusValue_eq_self hfrom, normalizeStatusValue_eq_self hto]
  rw [Bool.eq_iff_iff, List.any_eq_true, List.any_eq_true]
  refine exists_congr fun t => and_congr_right fun ht => ?_
  have htexts := List.all_eq_true.mp hall t ht
  rw [Bool.and_eq_true] at htexts
  rw [normalizeStatusValue_eq_self htexts.1, normalizeStatusValue_eq_self htexts.2]

theorem not_governed_pending (after : JobStatus) : ¬Governed .pending after := by
  rw [Governed, isTransitionDefined_eq (isStatusText_value _) (isStatusText_value _)]
  cases after <;> decide

theorem governedAs_iff (before after : JobStatus) :
    GovernedAs before after ↔ (before = .pending ∧
      (after = .running ∨ after = .failed ∨ after = .cancelled)) ∨
      (before = .running ∧ after.isFinal = true) := by
  rw [GovernedAs, isTransitionDefined_eq (isStatusText_governanceName _) (isStatusText_value _)]
  cases before <;> cases after <;> decide

theorem GovernedAs.not_final {before after : JobStatus} (h : GovernedAs before after) :
    before.isFinal = false := by
  rcases (governedAs_iff _ _).mp h with ⟨rfl, _⟩ | ⟨rfl, _⟩ <;> rfl

theorem GovernedAs.ne_pending {before after : JobStatus} (h : GovernedAs before after) :
    after ≠ .pending := by
  rintro rfl
  rcases (governedAs_iff _ _).mp h with ⟨_, h | h | h⟩ | ⟨_, h⟩ <;> cases h

end Table

/-! ### The writes -/

section Writes

variable {s : Store} {row current : JobRow}

theorem job?_write (h : s.job? row.id = some current) (id : Text) :
    (s.write row).job? id = if id = row.id then some row else s.job? id := by
  rw [Store.write, h]
  exact Keyed.find?_replace (by rw [← Store.job?, h]; rfl) id

theorem changes_write (h : s.job? row.id = some current) :
    (s.write row).changes = if current.status = row.status then s.changes
      else s.changes ++ [⟨row.id, current.status, row.status⟩] := by
  rw [Store.write, h]

theorem ids_write (s : Store) (row : JobRow) :
    (s.write row).jobs.map JobRow.id = s.jobs.map JobRow.id := by
  rw [Store.write]
  split
  · exact Keyed.map_key_replace _ _
  · rfl

theorem claims_write (s : Store) (row : JobRow) : (s.write row).claims = s.claims := by
  rw [Store.write]
  split <;> rfl

theorem cancelled_write (s : Store) (row : JobRow) : (s.write row).cancelled = s.cancelled := by
  rw [Store.write]
  split <;> rfl

/-- What the commit of a status writes. -/
def committed (loaded current : JobRow) (status : JobStatus) (now : Instant) : JobRow :=
  loaded.writeBack (loaded.withStatus status now) current

theorem committed_id (loaded current : JobRow) (status : JobStatus) (now : Instant) :
    (committed loaded current status now).id = current.id := rfl

theorem committed_status (loaded current : JobRow) (status : JobStatus) (now : Instant) :
    (committed loaded current status now).status =
      if status = loaded.status then current.status else status := rfl

def claimed (row : JobRow) (now : Instant) : JobRow :=
  { row with status := .running, startedAt := some now }

theorem claimed_status (row : JobRow) (now : Instant) : (claimed row now).status = .running := rfl

theorem nextPending_some {provider : Text} {locked : List Text}
    (h : s.nextPending provider locked = some row) : row ∈ s.jobs ∧ row.status = .pending := by
  rw [Store.nextPending] at h
  have hmem := Sorted.mem_sortOn.mp (List.mem_of_mem_head? h)
  obtain ⟨hrow, hpending⟩ := List.mem_filter.mp hmem
  rw [Bool.and_eq_true, Bool.and_eq_true] at hpending
  exact ⟨hrow, of_decide_eq_true hpending.1.1⟩

end Writes

/-! ### What a step can do -/

section Steps

/-- The transactions that the callers make: jobs are created pending, and a cancellation writes
`cancelled`. -/
def Made : Call → Prop
  | .createJob row => row.status = .pending
  | .commitStatus .cancel _ status => status = .cancelled
  | _ => True

theorem only_made_updateStatus (purpose : Purpose) (jobId : Text) (status : JobStatus)
    (h : purpose = .cancel → status = .cancelled) :
    (updateStatus purpose jobId status).Only Made := by
  rw [updateStatus]
  split
  · trivial
  refine .bind (.perform trivial) fun loaded => ?_
  cases loaded with
  | none => trivial
  | some loaded =>
    refine .bind (.perform ?_) fun _ => trivial
    cases purpose with
    | cancel => exact h rfl
    | update => trivial

theorem only_made_cancelSyncJob (jobId : Text) : (cancelSyncJob jobId).Only Made := by
  have hget : (getJob jobId).Only Made := by
    rw [getJob]
    split
    · trivial
    · exact .perform trivial
  refine hget.bind fun job => ?_
  cases job with
  | none => trivial
  | some job =>
    dsimp only
    split
    · trivial
    refine (only_made_updateStatus .cancel jobId .cancelled fun _ => rfl).bind fun updated => ?_
    split <;> trivial

variable [PyRuntime]

theorem only_made_program (request : Request) : request.program.Only Made := by
  cases request with
  | create connectorInstanceId jobId now =>
    refine .bind (.perform trivial) fun provider => ?_
    cases provider with
    | none => trivial
    | some provider => exact .perform rfl
  | cancel jobId => exact only_made_cancelSyncJob jobId
  | claim provider => exact .bind (.perform trivial) fun _ => trivial
  | update jobId status =>
    refine .bind (only_made_updateStatus .update jobId status ?_) fun _ => trivial
    rintro ⟨⟩

/-- What a step does to the tables. -/
inductive Moved {Id : Type} (s : Store) : Event Id → Store → Prop
  | nothing (e : Event Id) : Moved s e s
  | instances (e : Event Id) (instances : List (Text × Text)) : Moved s e { s with instances }
  | created (e : Event Id) {row : JobRow} (hnew : s.job? row.id = none)
      (hpending : row.status = .pending) : Moved s e { s with jobs := s.jobs ++ [row] }
  | written {worker : Id} {purpose : Purpose} {loaded current : JobRow} {status : JobStatus}
      {now : Instant} {fate : Pool.Fate PyError Unit} {cancelled : List Text}
      (heffective : fate.effective = true) (hcurrent : s.job? loaded.id = some current)
      (hcancel : purpose = .cancel → status = .cancelled)
      (hcancelled : cancelled = s.cancelled ∨
        (purpose = .cancel ∧ cancelled = s.cancelled ++ [loaded.id])) :
    Moved s (.call worker (.commitStatus purpose loaded status) (now, fate))
      { s.write (committed loaded current status now) with cancelled }
  | claimed {worker : Id} {provider : Text} {now : Instant} {locked : List Text}
      {fate : Pool.Fate PyError Unit} {row : JobRow} (heffective : fate.effective = true)
      (hnext : s.nextPending provider locked = some row) :
    Moved s (.call worker (.claimPending provider) (now, locked, fate))
      { s.write (claimed row now) with claims := s.claims ++ [row.id] }

variable {Id : Type} [DecidableEq Id] {p p' : Callers Id} {e : Event Id}

theorem moved (hmade : Pool.Only Made p) (hstep : Pool.Step site p e p') :
    Moved p.shared e p'.shared := by
  cases hstep with
  | outside o => exact .instances _ _
  | begin_ hphase hbegin =>
    cases hbegin
    exact .nothing _
  | done hphase => exact .nothing _
  | raised hphase => exact .nothing _
  | crash worker => exact .nothing _
  | @call worker request op next how hphase =>
    have hkind := (hmade _ _ _ hphase).1
    cases op with
    | getInstance id => cases how <;> exact .nothing _
    | selectJob id => cases how <;> exact .nothing _
    | createJob row =>
      show Moved p.shared _ (p.shared.perform (.createJob row) how).2
      rw [Store.perform]
      split
      · exact .nothing _
      · rename_i hnew
        cases heffective : how.effective with
        | false => exact .nothing _
        | true =>
          refine .created _ ?_ hkind
          rwa [Bool.not_eq_true, Option.isSome_eq_false_iff, Option.isNone_iff_eq_none] at hnew
    | commitStatus purpose loaded status =>
      obtain ⟨now, fate⟩ := how
      show Moved p.shared _ (p.shared.perform (.commitStatus purpose loaded status) (now, fate)).2
      rw [Store.perform]
      cases hcurrent : p.shared.job? loaded.id with
      | none => exact .nothing _
      | some current =>
        dsimp only
        cases heffective : fate.effective with
        | false => exact .nothing _
        | true =>
          refine .written heffective hcurrent ?_ ?_
          · rintro rfl
            exact hkind
          · rw [cancelled_write]
            split
            · exact .inr ⟨rfl, rfl⟩
            · exact .inl rfl
    | claimPending provider =>
      obtain ⟨now, locked, fate⟩ := how
      show Moved p.shared _ (p.shared.perform (.claimPending provider) (now, locked, fate)).2
      rw [Store.perform]
      cases hnext : p.shared.nextPending provider locked with
      | none => exact .nothing _
      | some row =>
        dsimp only
        cases heffective : fate.effective with
        | false => exact .nothing _
        | true =>
          rw [claims_write]
          exact .claimed heffective hnext

end Steps

/-! ### Runs -/

section Invariants

variable [PyRuntime] {s s' : Store}

omit [PyRuntime] in
/-- The identifiers are distinct; as long as no status changed every job waits and none is claimed;
a job that waits has not changed. -/
structure Waiting (s : Store) : Prop where
  ids : (s.jobs.map JobRow.id).Nodup
  first : s.changes = [] → (∀ row ∈ s.jobs, row.status = .pending) ∧ s.claims = []
  fromPending : s.changes ≠ [] → ∃ c ∈ s.changes, c.before = .pending

omit [PyRuntime] in
theorem waiting_initial : Waiting .initial where
  ids := List.nodup_nil
  first := fun _ => ⟨fun _ h => absurd h List.not_mem_nil, rfl⟩
  fromPending := fun h => absurd rfl h

omit [PyRuntime] in
theorem job?_of_nextPending {provider : Text} {locked : List Text} {row : JobRow}
    (hids : (s.jobs.map JobRow.id).Nodup) (h : s.nextPending provider locked = some row) :
    s.job? row.id = some row :=
  Keyed.find?_of_mem hids (nextPending_some h).1

omit [PyRuntime] in
/-- The first change of a status is from `pending`. -/
theorem Waiting.write (h : Waiting s) {row current : JobRow} (hcurrent : s.job? row.id = some current)
    (claims cancelled : List Text)
    (hclaims : current.status = row.status → s.changes = [] → claims = []) :
    Waiting { s.write row with claims, cancelled } := by
  have hmem : current ∈ s.jobs := List.mem_of_find?_eq_some hcurrent
  have hchanges := changes_write hcurrent
  constructor
  · rw [ids_write]
    exact h.ids
  · intro hnone
    change (s.write row).changes = [] at hnone
    rw [hchanges] at hnone
    split at hnone
    · rename_i hsame
      obtain ⟨hpending, _⟩ := h.first hnone
      refine ⟨fun other hother => ?_, hclaims hsame hnone⟩
      change other ∈ (s.write row).jobs at hother
      rw [Store.write, hcurrent] at hother
      rcases Keyed.mem_of_mem_replace hother with rfl | hother
      · rw [← hsame]
        exact hpending current hmem
      · exact hpending other hother
    · exact absurd hnone (by simp)
  · intro hsome
    change (s.write row).changes ≠ [] at hsome
    show ∃ c ∈ (s.write row).changes, _
    rw [hchanges] at hsome ⊢
    split
    · rename_i hsame
      rw [if_pos hsame] at hsome
      exact h.fromPending hsome
    · by_cases hnone : s.changes = []
      · refine ⟨_, List.mem_append_right _ List.mem_cons_self, ?_⟩
        exact (h.first hnone).1 current hmem
      · obtain ⟨c, hc, hbefore⟩ := h.fromPending hnone
        exact ⟨c, List.mem_append_left _ hc, hbefore⟩

omit [PyRuntime] in
theorem Waiting.moved {Id : Type} (h : Waiting s) {e : Event Id} (hmoved : Moved s e s') :
    Waiting s' := by
  cases hmoved with
  | nothing => exact h
  | instances => exact ⟨h.ids, h.first, h.fromPending⟩
  | created _ hnew hpending =>
    refine ⟨Keyed.nodup_keys_append h.ids hnew, fun hnone => ⟨fun row hrow => ?_, ?_⟩, h.fromPending⟩
    · rcases List.mem_append.mp hrow with hrow | hrow
      · exact (h.first hnone).1 row hrow
      · rw [List.mem_singleton.mp hrow]
        exact hpending
    · exact (h.first hnone).2
  | @written worker purpose loaded current status now fate cancelled heffective hcurrent =>
    have hid : current.id = loaded.id := Keyed.key_of_find? hcurrent
    have hcurrent' : s.job? (committed loaded current status now).id = some current := by
      rw [committed_id, hid, hcurrent]
    exact h.write hcurrent' _ _ fun _ hnone => by
      rw [claims_write]
      exact (h.first hnone).2
  | @claimed worker provider now locked fate row heffective hnext =>
    have hcurrent : s.job? (claimed row now).id = some row := job?_of_nextPending h.ids hnext
    refine h.write hcurrent _ _ fun hsame _ => ?_
    rw [(nextPending_some hnext).2] at hsame
    cases hsame

omit [PyRuntime] in
/-- No change is forgotten. -/
theorem changes_moved {Id : Type} {e : Event Id} (hmoved : Moved s e s') :
    ∃ more, s'.changes = s.changes ++ more := by
  have hwrite : ∀ (row : JobRow), ∃ more, (s.write row).changes = s.changes ++ more := by
    intro row
    cases hcurrent : s.job? row.id with
    | none => exact ⟨[], by rw [Store.write, hcurrent, List.append_nil]⟩
    | some current =>
      rw [changes_write hcurrent]
      split
      · exact ⟨[], (List.append_nil _).symm⟩
      · exact ⟨_, rfl⟩
  cases hmoved with
  | nothing => exact ⟨[], (List.append_nil _).symm⟩
  | instances => exact ⟨[], (List.append_nil _).symm⟩
  | created => exact ⟨[], (List.append_nil _).symm⟩
  | written => exact hwrite _
  | claimed => exact hwrite _

omit [PyRuntime] in
/-- A step that is unchanging changes no status. -/
theorem unchanged {Id : Type} {p : Callers Id} {e : Event Id}
    (hmoved : Moved p.shared e s') (h : Unchanging p e) : s'.changes = p.shared.changes := by
  cases hmoved with
  | nothing => rfl
  | instances => rfl
  | created => rfl
  | @written worker purpose loaded current status now fate cancelled heffective hcurrent =>
    have hid : current.id = loaded.id := Keyed.key_of_find? hcurrent
    have hcurrent' : p.shared.job? (committed loaded current status now).id = some current := by
      rw [committed_id, hid, hcurrent]
    show (p.shared.write _).changes = _
    rw [changes_write hcurrent', if_pos]
    rw [committed_status]
    split
    · rfl
    · rename_i hne
      rcases h heffective current hcurrent with hsame | hsame
      · exact absurd hsame hne
      · exact hsame.symm
  | claimed heffective hnext => cases (h heffective).symm.trans hnext

variable {Id : Type} [DecidableEq Id] {p p' : Callers Id} {e : Event Id}

/-- A step after which no status has changed is unchanging. -/
theorem unchanging_of_changes (hwaiting : Waiting p.shared) (hstep : Pool.Step site p e p')
    (hnone : p'.shared.changes = []) : Unchanging p e := by
  cases hstep with
  | outside | begin_ | done | raised | crash => trivial
  | @call worker request op next how hphase =>
    cases op with
    | getInstance | selectJob | createJob => trivial
    | commitStatus purpose loaded status =>
      obtain ⟨now, fate⟩ := how
      intro heffective current hcurrent
      have hid : current.id = loaded.id := Keyed.key_of_find? hcurrent
      have hcurrent' : p.shared.job? (committed loaded current status now).id = some current := by
        rw [committed_id, hid, hcurrent]
      by_contra hchange
      rw [not_or] at hchange
      change (p.shared.perform (.commitStatus purpose loaded status) (now, fate)).2.changes = []
        at hnone
      rw [Store.perform, hcurrent] at hnone
      dsimp only at hnone
      rw [if_pos heffective] at hnone
      change (p.shared.write (committed loaded current status now)).changes = [] at hnone
      rw [changes_write hcurrent', committed_status, if_neg hchange.1,
        if_neg (Ne.symm hchange.2)] at hnone
      exact absurd hnone (by simp)
    | claimPending provider =>
      obtain ⟨now, locked, fate⟩ := how
      intro heffective
      cases hnext : p.shared.nextPending provider locked with
      | none => rfl
      | some row =>
        have hcurrent : p.shared.job? (claimed row now).id = some row :=
          job?_of_nextPending hwaiting.ids hnext
        change (p.shared.perform (.claimPending provider) (now, locked, fate)).2.changes = []
          at hnone
        rw [Store.perform, hnext] at hnone
        dsimp only at hnone
        rw [if_pos heffective] at hnone
        change (p.shared.write (claimed row now)).changes = [] at hnone
        rw [changes_write hcurrent, (nextPending_some hnext).2, claimed_status,
          if_neg (by decide)] at hnone
        exact absurd hnone (by simp)

theorem waiting_of_runs {meets : Callers Id → Event Id → Prop} {events : List (Event Id)}
    (hruns : Transition.Runs (Pool.Step site) meets (Pool.idle .initial) events p) :
    Pool.Only Made p ∧ Waiting p.shared := by
  refine hruns.invariant (I := fun p => Pool.Only Made p ∧ Waiting p.shared)
    ⟨Pool.only_idle _ _, waiting_initial⟩ ?_
  rintro p e p' ⟨hmade, hwaiting⟩ hstep _
  exact ⟨hmade.step only_made_program hstep, hwaiting.moved (moved hmade hstep)⟩

theorem changes_of_unchanging {events : List (Event Id)}
    (hruns : Transition.Runs (Pool.Step site) Unchanging (Pool.idle .initial) events p) :
    p.shared.changes = [] := by
  induction hruns with
  | refl => rfl
  | snoc hbefore hstep hmeets ih =>
    have hmade := (waiting_of_runs hbefore).1
    rw [unchanged (moved hmade hstep) hmeets, ih]

theorem unchanging_of_runs {events : List (Event Id)}
    (hruns : Transition.Runs (Pool.Step site) (fun _ _ => True) (Pool.idle .initial) events p)
    (hnone : p.shared.changes = []) :
    Transition.Runs (Pool.Step site) Unchanging (Pool.idle .initial) events p := by
  induction hruns with
  | refl => exact .refl
  | snoc hbefore hstep _ ih =>
    obtain ⟨hmade, hwaiting⟩ := waiting_of_runs hbefore
    obtain ⟨more, hmore⟩ := changes_moved (moved hmade hstep)
    rw [hnone] at hmore
    refine .snoc (ih (List.append_eq_nil_iff.mp hmore.symm).1) hstep ?_
    exact unchanging_of_changes hwaiting hstep hnone

end Invariants

/-! ### The law but for the name of the first status -/

section Guards

variable [PyRuntime] {s s' : Store}

/-- The invariant of the runs whose steps are guarded. -/
structure MachineSound (s : Store) : Prop where
  ids : (s.jobs.map JobRow.id).Nodup
  law : JobMachineAs s
  waiting : ∀ id row, s.job? id = some row → row.status = .pending →
    id ∉ s.claims ∧ ∀ c ∈ s.changes, c.id ≠ id
  claimsKnown : ∀ id ∈ s.claims, (s.job? id).isSome
  changesKnown : ∀ c ∈ s.changes, (s.job? c.id).isSome
  cancelled : ∀ id ∈ s.cancelled, ∃ row, s.job? id = some row ∧ row.status = .cancelled

theorem machineSound_initial : MachineSound .initial where
  ids := List.nodup_nil
  law :=
    { governed := fun _ h => absurd h List.not_mem_nil
      final := fun _ h => absurd h List.not_mem_nil
      claimedOnce := List.nodup_nil
      notRun := fun _ h => absurd h List.not_mem_nil }
  waiting := by
    intro id row h
    cases h
  claimsKnown := fun _ h => absurd h List.not_mem_nil
  changesKnown := fun _ h => absurd h List.not_mem_nil
  cancelled := fun _ h => absurd h List.not_mem_nil

omit [PyRuntime] in
theorem mem_changes_write {row current : JobRow} (hcurrent : s.job? row.id = some current)
    {c : Change} (h : c ∈ (s.write row).changes) :
    c ∈ s.changes ∨ (c = ⟨row.id, current.status, row.status⟩ ∧ current.status ≠ row.status) := by
  rw [changes_write hcurrent] at h
  split at h
  · exact .inl h
  · rename_i hne
    exact (List.mem_append.mp h).imp id fun h => ⟨List.mem_singleton.mp h, hne⟩

omit [PyRuntime] in
theorem isSome_job?_write {row current : JobRow} (hcurrent : s.job? row.id = some current)
    {id : Text} (h : (s.job? id).isSome) : ((s.write row).job? id).isSome := by
  rw [job?_write hcurrent]
  split
  · rfl
  · exact h

/-- A status is written over one from which the table allows it. -/
theorem MachineSound.write (h : MachineSound s) {row current : JobRow}
    (hcurrent : s.job? row.id = some current)
    (hmove : current.status ≠ row.status → GovernedAs current.status row.status) :
    MachineSound (s.write row) where
  ids := by
    rw [ids_write]
    exact h.ids
  law :=
    { governed := by
        intro c hc
        rcases mem_changes_write hcurrent hc with hc | ⟨rfl, hne⟩
        · exact h.law.governed c hc
        · exact hmove hne
      final := by
        intro c hc
        rcases mem_changes_write hcurrent hc with hc | ⟨rfl, hne⟩
        · exact h.law.final c hc
        · exact (hmove hne).not_final
      claimedOnce := by
        rw [claims_write]
        exact h.law.claimedOnce
      notRun := by
        intro id hid c hc heq
        rw [cancelled_write] at hid
        rcases mem_changes_write hcurrent hc with hc | ⟨rfl, hne⟩
        · exact h.law.notRun id hid c hc heq
        · -- A cancelled job changes no more.
          subst heq
          obtain ⟨found, hfound, hstatus⟩ := h.cancelled _ hid
          cases hcurrent.symm.trans hfound
          have hfinal := (hmove hne).not_final
          rw [hstatus] at hfinal
          cases hfinal }
  waiting := by
    intro id found hfound hpending
    rw [job?_write hcurrent] at hfound
    rw [claims_write]
    split at hfound
    · rename_i hid
      cases hfound
      have hsame : current.status = row.status := by
        by_contra hne
        exact (hmove hne).ne_pending hpending
      obtain ⟨hclaims, hchanges⟩ := h.waiting row.id current hcurrent (hsame.trans hpending)
      refine ⟨hid ▸ hclaims, fun c hc => ?_⟩
      rcases mem_changes_write hcurrent hc with hc | ⟨rfl, hne⟩
      · exact hid ▸ hchanges c hc
      · exact absurd hsame hne
    · rename_i hid
      obtain ⟨hclaims, hchanges⟩ := h.waiting id found hfound hpending
      refine ⟨hclaims, fun c hc => ?_⟩
      rcases mem_changes_write hcurrent hc with hc | ⟨rfl, _⟩
      · exact hchanges c hc
      · exact Ne.symm hid
  claimsKnown := by
    intro id hid
    rw [claims_write] at hid
    exact isSome_job?_write hcurrent (h.claimsKnown id hid)
  changesKnown := by
    intro c hc
    refine isSome_job?_write hcurrent ?_
    rcases mem_changes_write hcurrent hc with hc | ⟨rfl, _⟩
    · exact h.changesKnown c hc
    · rw [hcurrent]
      rfl
  cancelled := by
    intro id hid
    rw [cancelled_write] at hid
    obtain ⟨found, hfound, hstatus⟩ := h.cancelled id hid
    rw [job?_write hcurrent]
    split
    · rename_i heq
      subst heq
      cases hcurrent.symm.trans hfound
      refine ⟨row, rfl, ?_⟩
      by_contra hne
      have hfinal := (hmove fun hsame => hne (hsame ▸ hstatus)).not_final
      rw [hstatus] at hfinal
      cases hfinal
    · exact ⟨found, hfound, hstatus⟩

/-- A cancellation is answered for a job that was cancelled and never ran. -/
theorem MachineSound.answer (h : MachineSound s) {cancelled : List Text}
    (hnew : ∀ id ∈ cancelled, id ∈ s.cancelled ∨
      ((∃ row, s.job? id = some row ∧ row.status = .cancelled) ∧
        ∀ c ∈ s.changes, c.id = id → c.after ≠ .running)) :
    MachineSound { s with cancelled } where
  ids := h.ids
  law :=
    { governed := h.law.governed
      final := h.law.final
      claimedOnce := h.law.claimedOnce
      notRun := by
        intro id hid
        rcases hnew id hid with hbefore | ⟨_, hchanges⟩
        · exact h.law.notRun id hbefore
        · exact hchanges }
  waiting := h.waiting
  claimsKnown := h.claimsKnown
  changesKnown := h.changesKnown
  cancelled := by
    intro id hid
    rcases hnew id hid with hbefore | ⟨hrow, _⟩
    · exact h.cancelled id hbefore
    · exact hrow

/-- A job that no longer waits is recorded as claimed. -/
theorem MachineSound.claim (h : MachineSound s) {id : Text} {row : JobRow}
    (hrow : s.job? id = some row) (hstatus : row.status ≠ .pending) (hnew : id ∉ s.claims) :
    MachineSound { s with claims := s.claims ++ [id] } where
  ids := h.ids
  law :=
    { governed := h.law.governed
      final := h.law.final
      claimedOnce := List.nodup_append.mpr ⟨h.law.claimedOnce, List.nodup_singleton _, by
        intro other hother id' hid' heq
        rw [List.mem_singleton.mp hid'] at heq
        exact hnew (heq ▸ hother)⟩
      notRun := h.law.notRun }
  waiting := by
    intro other found hfound hpending
    obtain ⟨hclaims, hchanges⟩ := h.waiting other found hfound hpending
    refine ⟨fun hmem => ?_, hchanges⟩
    rcases List.mem_append.mp hmem with hmem | hmem
    · exact hclaims hmem
    · rw [List.mem_singleton.mp hmem] at hfound
      cases hrow.symm.trans hfound
      exact hstatus hpending
  claimsKnown := by
    intro other hmem
    rcases List.mem_append.mp hmem with hmem | hmem
    · exact h.claimsKnown other hmem
    · rw [List.mem_singleton.mp hmem]
      show (s.job? id).isSome
      rw [hrow]
      rfl
  changesKnown := h.changesKnown
  cancelled := h.cancelled

variable {Id : Type} {p : Callers Id} {e : Event Id}

/-- The step lemma. -/
theorem MachineSound.moved (h : MachineSound p.shared) (hmoved : Moved p.shared e s')
    (hguarded : Guarded p e) : MachineSound s' := by
  cases hmoved with
  | nothing => exact h
  | instances =>
    exact ⟨h.ids, ⟨h.law.governed, h.law.final, h.law.claimedOnce, h.law.notRun⟩, h.waiting,
      h.claimsKnown, h.changesKnown, h.cancelled⟩
  | @created _ row hnew hpending =>
    have hkept : ∀ {id : Text} {found : JobRow}, p.shared.job? id = some found →
        Keyed.find? JobRow.id (p.shared.jobs ++ [row]) id = some found := by
      intro id found hfound
      rw [Keyed.find?_append hnew, if_neg]
      · exact hfound
      · rintro rfl
        cases hnew.symm.trans hfound
    have hknown : ∀ {id : Text}, (p.shared.job? id).isSome →
        (Keyed.find? JobRow.id (p.shared.jobs ++ [row]) id).isSome := by
      intro id hid
      obtain ⟨found, hfound⟩ := Option.isSome_iff_exists.mp hid
      rw [hkept hfound]
      rfl
    refine ⟨Keyed.nodup_keys_append h.ids hnew,
      ⟨h.law.governed, h.law.final, h.law.claimedOnce, h.law.notRun⟩, ?_,
      fun id hid => hknown (h.claimsKnown id hid), fun c hc => hknown (h.changesKnown c hc), ?_⟩
    · intro id found hfound hwaits
      change Keyed.find? JobRow.id (p.shared.jobs ++ [row]) id = some found at hfound
      rw [Keyed.find?_append hnew] at hfound
      split at hfound
      · -- Nothing is recorded of a new identifier.
        rename_i hid
        subst hid
        refine ⟨fun hclaim => ?_, fun c hc heq => ?_⟩
        · have hsome := h.claimsKnown _ hclaim
          rw [hnew] at hsome
          cases hsome
        · have hsome := h.changesKnown c hc
          rw [heq, hnew] at hsome
          cases hsome
      · exact h.waiting id found hfound hwaits
    · intro id hid
      obtain ⟨found, hfound, hstatus⟩ := h.cancelled id hid
      exact ⟨found, hkept hfound, hstatus⟩
  | @written worker purpose loaded current status now fate cancelled heffective hcurrent hcancel
      hcancelled =>
    obtain ⟨hmove, hcancels⟩ := hguarded heffective current hcurrent
    have hid : current.id = loaded.id := Keyed.key_of_find? hcurrent
    have hcurrent' : p.shared.job? (committed loaded current status now).id = some current := by
      rw [committed_id, hid, hcurrent]
    have hwritten := h.write hcurrent' fun hne => by
      rw [committed_status] at hne ⊢
      split
      · rename_i hsame
        rw [if_pos hsame] at hne
        exact absurd rfl hne
      · rename_i hloaded
        rw [if_neg hloaded] at hne
        rcases hmove with hsame | hsame | hgoverned
        · exact absurd hsame hloaded
        · exact absurd hsame.symm hne
        · exact hgoverned
    refine hwritten.answer fun id hmem => ?_
    rw [cancelled_write]
    rcases hcancelled with rfl | ⟨rfl, rfl⟩
    · exact .inl hmem
    rcases List.mem_append.mp hmem with hmem | hmem
    · exact .inl hmem
    rw [List.mem_singleton.mp hmem]
    rcases hcancels rfl with ⟨hloaded, hpending⟩ | hbefore
    · have hstatus : (committed loaded current status now).status = .cancelled := by
        rw [committed_status, hcancel rfl, hloaded, if_neg (by decide)]
      refine .inr ⟨⟨_, ?_, hstatus⟩, fun c hc heq => ?_⟩
      · rw [job?_write hcurrent', committed_id, if_pos hid.symm]
      · rcases mem_changes_write hcurrent' hc with hc | ⟨rfl, _⟩
        · exact absurd heq ((h.waiting _ current hcurrent hpending).2 c hc)
        · show (committed loaded current status now).status ≠ .running
          rw [hstatus]
          decide
    · exact .inl hbefore
  | @claimed worker provider now locked fate row heffective hnext =>
    have hcurrent : p.shared.job? (claimed row now).id = some row :=
      job?_of_nextPending h.ids hnext
    have hpending := (nextPending_some hnext).2
    have hwritten := h.write hcurrent fun _ => by
      rw [hpending]
      exact (governedAs_iff _ _).mpr (.inl ⟨rfl, .inl rfl⟩)
    have hnew := (h.waiting _ row hcurrent hpending).1
    rw [← claims_write p.shared (claimed row now)] at hnew ⊢
    have hrow : (p.shared.write (claimed row now)).job? (claimed row now).id =
        some (claimed row now) := by
      rw [job?_write hcurrent, if_pos rfl]
    refine hwritten.claim hrow ?_ hnew
    rw [claimed_status]
    decide

variable [DecidableEq Id] {events : List (Event Id)}

/-- The claim's law holds exactly of the runs in which no step changes a status; of those whose
steps are guarded it holds but for the name of the first status. -/
theorem jobMachine_iff
    (hruns : Transition.Runs (Pool.Step site) (fun _ _ => True) (Pool.idle .initial) events p) :
    (JobMachine p.shared ↔
      Transition.Runs (Pool.Step site) Unchanging (Pool.idle .initial) events p) ∧
    (Transition.Runs (Pool.Step site) Guarded (Pool.idle .initial) events p →
      JobMachineAs p.shared) := by
  refine ⟨⟨fun hlaw => ?_, fun hunchanging => ?_⟩, fun hguarded => ?_⟩
  · refine unchanging_of_runs hruns ?_
    by_contra hsome
    obtain ⟨c, hc, hbefore⟩ := (waiting_of_runs hruns).2.fromPending hsome
    have hgoverned := hlaw.governed c hc
    rw [hbefore] at hgoverned
    exact not_governed_pending _ hgoverned
  · have hnone := changes_of_unchanging hunchanging
    have hclaims := ((waiting_of_runs hruns).2.first hnone).2
    have hempty : ∀ c, c ∉ p.shared.changes := by
      rw [hnone]
      exact fun _ => List.not_mem_nil
    exact
      { governed := fun c hc => absurd hc (hempty c)
        final := fun c hc => absurd hc (hempty c)
        claimedOnce := hclaims ▸ List.nodup_nil
        notRun := fun _ _ c hc => absurd hc (hempty c) }
  · have hsound : Pool.Only Made p ∧ MachineSound p.shared := by
      refine hguarded.invariant (I := fun p => Pool.Only Made p ∧ MachineSound p.shared)
        ⟨Pool.only_idle _ _, machineSound_initial⟩ ?_
      rintro p e p' ⟨hmade, hsound⟩ hstep hmeets
      exact ⟨hmade.step only_made_program hstep, hsound.moved (moved hmade hstep) hmeets⟩
    exact hsound.2.law

end Guards

section Samples

open Transition

local instance sampleRuntimeJobs : PyRuntime := .ascii (fun _ => .nan) (fun _ => [])

/-- Every transaction is served. -/
def sampleTransactions : (call : Call) → call.How
  | .getInstance _ | .selectJob _ => none
  | .createJob _ => .served ()
  | .commitStatus .. => (0, .served ())
  | .claimPending _ => (0, [], .served ())

def sampleJobRow : JobRow := ⟨"job", "provider", .pending, 0, none, none, 0⟩

def sampleWaiting : Store := ⟨[("instance", "provider")], [sampleJobRow], [], [], []⟩

/-- The tables after the job was claimed. -/
def sampleRunning : Store :=
  { sampleWaiting with
    jobs := [claimed sampleJobRow 0]
    changes := [⟨"job", .pending, .running⟩]
    claims := ["job"] }

theorem runs_request (request : Request) (worker : Bool) {p : Callers Bool} (hidle : p.phase worker = none)
    {s : Store} (hs : Pool.execute site sampleTransactions request.program p.shared = s) :
    ∃ events p', Runs (Pool.Step site) (fun _ _ => True) p events p' ∧ p'.shared = s ∧
      p'.phase worker = none ∧ ∀ other, other ≠ worker → p'.phase other = p.phase other := by
  have hbegin : Pool.Step site p (.begin_ worker request)
      (p.put worker p.shared (some (request, request.program))) := .begin_ hidle rfl
  obtain ⟨events, p', hruns, hshared, hnone, hothers⟩ := Pool.runs_execute site sampleTransactions
    (fun _ _ => True) _ (fun _ _ => trivial) (fun _ => trivial) _ (Pool.phase_put_self p worker _ _)
  exact ⟨_, p', .cons hbegin trivial hruns, hshared.trans hs, hnone, fun other hne =>
    (hothers other hne).trans (Pool.phase_put_of_ne hne _)⟩

theorem runs_sampleWaiting :
    ∃ (events : List (Event Bool)) (p : Callers Bool),
      Runs (Pool.Step site) (fun _ _ => True) (Pool.idle .initial) events p ∧
        p.shared = sampleWaiting ∧ ∀ worker, p.phase worker = none := by
  let entry : Text × Text := ("instance", "provider")
  have hadd : Pool.Step site (Pool.idle .initial : Callers Bool) (.outside entry)
      (Pool.idle ⟨[entry], [], [], [], []⟩) := .outside _ _
  have hnone : (Pool.idle ⟨[entry], [], [], [], []⟩ : Callers Bool).phase true = none := rfl
  obtain ⟨events, p, hruns, hstore, hidle, hothers⟩ := runs_request
    (.create "instance" "job" 0) true hnone (s := sampleWaiting) rfl
  refine ⟨_, p, .cons hadd trivial hruns, hstore, fun worker => ?_⟩
  cases worker with
  | true => exact hidle
  | false => exact hothers false (by decide)

/-- The job is created and claimed. -/
theorem jobMachine_iff_sample :
    ∃ (events : List (Event Bool)) (p : Callers Bool), p.shared = sampleRunning ∧
      (JobMachine p.shared ↔ Runs (Pool.Step site) Unchanging (Pool.idle .initial) events p) ∧
      (Runs (Pool.Step site) Guarded (Pool.idle .initial) events p → JobMachineAs p.shared) := by
  obtain ⟨created, p₁, hcreated, hstore, hidle⟩ := runs_sampleWaiting
  have hclaim : Pool.execute site sampleTransactions (Request.claim []).program p₁.shared =
      sampleRunning := by
    rw [hstore]
    rfl
  obtain ⟨claimed, p₂, hclaimed, hrunning, _⟩ := runs_request _ false (hidle false) hclaim
  exact ⟨_, p₂, hrunning, jobMachine_iff (hcreated.append hclaimed)⟩

/-- The rest of the cancellation after it has read the waiting job. -/
def sampleCancelling : Work Unit := do
  let updated ← updateStatus .cancel "job" .cancelled
  if updated then pure () else valueError "sync job not found during cancel"

/-- The tables after the cancellation of the running job. -/
def sampleCancelled : Store :=
  { sampleRunning with
    jobs := [(claimed sampleJobRow 0).withStatus .cancelled 0]
    changes := [⟨"job", .pending, .running⟩, ⟨"job", .running, .cancelled⟩]
    cancelled := ["job"] }

/-- A worker claims the job between the two transactions of a cancellation. The first change of
status is none that the table has, and the cancellation is answered though the job runs. -/
theorem jobMachine_counterexample :
    ∃ (events : List (Event Bool)) (p : Callers Bool),
      Runs (Pool.Step site) (fun _ _ => True) (Pool.idle .initial) events p ∧
        ¬JobMachine p.shared ∧
        ∃ id ∈ p.shared.cancelled, ∃ c ∈ p.shared.changes, c.id = id ∧ c.after = .running := by
  let request : Request := .cancel "job"
  obtain ⟨created, p₁, hcreated, hstore₁, hidle₁⟩ := runs_sampleWaiting
  -- The first transaction of the cancellation.
  let p₁' : Callers Bool := p₁.put true sampleWaiting (some (request, request.program))
  let p₁'' : Callers Bool := p₁'.put true sampleWaiting (some (request, sampleCancelling))
  have hbegin : Pool.Step site p₁ (.begin_ true request) p₁' :=
    .begin_ (hidle₁ true) (congrArg some hstore₁)
  have hselect : Pool.Step site p₁' (.call true (.selectJob "job") none) p₁'' := by
    have hphase : p₁'.phase true = some (request, request.program) := Pool.phase_put_self ..
    exact .call_to site _ hphase rfl
  have hfree : p₁''.phase false = none := by
    rw [Pool.phase_put_of_ne (by decide), Pool.phase_put_of_ne (by decide), hidle₁]
  obtain ⟨running, p₂, hrunning, hstore₂, _, hothers₂⟩ := runs_request (.claim []) false hfree
    (s := sampleRunning) rfl
  have hphase : p₂.phase true = some (request, sampleCancelling) := by
    rw [hothers₂ true (by decide)]
    exact Pool.phase_put_self ..
  obtain ⟨ending, p₃, hending, hstore₃, _⟩ := Pool.runs_execute site sampleTransactions
    (fun _ _ => True) p₂ (fun _ _ => trivial) (fun _ => trivial) _ hphase
  rw [hstore₂] at hstore₃
  have hruns := hcreated.append
    (.cons hbegin trivial (.cons hselect trivial (hrunning.append hending)))
  have hfinal : p₃.shared = sampleCancelled := hstore₃.trans rfl
  refine ⟨_, p₃, hruns, fun hlaw => ?_, ?_⟩
  · refine not_governed_pending .running (hlaw.governed ⟨"job", .pending, .running⟩ ?_)
    rw [hfinal]
    exact List.mem_cons_self
  · rw [hfinal]
    exact ⟨_, List.mem_cons_self, _, List.mem_cons_self, rfl, rfl⟩

end Samples

end SyncJobs

end Connectors

end DqMadeEasy
