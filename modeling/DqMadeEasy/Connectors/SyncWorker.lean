import Mathlib.Data.Finset.Max
import DqMadeEasy.Connectors.SyncJobs

/-!
# The connector sync worker

Any number of workers claim the oldest pending sync job, run its sync and record the outcome. A claim
and the outcome of its sync are one transaction, so a claimed row is still pending for everybody
else: a second claim of it waits until the first transaction ends. A retry is two transactions, with
a sleep between them. The row says how often it has been retried, and no statement of the worker
changes that.
-/

namespace DqMadeEasy

namespace Connectors

namespace SyncWorker

open SyncJobs (JobStatus)

/-! ### Errors -/

/-- The classes of exceptions that `_classify_error` tells apart. -/
inductive ExceptionClass where
  | connectionError | timeoutError | permissionError | other
  deriving DecidableEq

/-- An exception of a sync: its class and `str(exc)`. -/
structure SyncException where
  kind : ExceptionClass
  message : Text

/-- The error codes of `_classify_error`; the error kind is always the same word. -/
inductive ErrorKind where
  | connection | authentication | discovery | sync
  deriving DecidableEq

/-- Membership in `_RETRYABLE_KINDS`. -/
def ErrorKind.isRetryable : ErrorKind → Bool
  | .connection | .discovery | .sync => true
  | .authentication => false

def classifyError [PyRuntime] (exc : SyncException) : ErrorKind :=
  match exc.kind with
  | .connectionError | .timeoutError => .connection
  | .permissionError => .authentication
  | .other =>
    if "authentication" <:+: PyRuntime.lower exc.message then .authentication
    else if "discovery" <:+: PyRuntime.lower exc.message then .discovery
    else .sync

/-! ### The table -/

/-- The columns of `connector_sync_jobs` that decide what the worker does. -/
structure Job where
  id : Text
  createdAt : Instant
  status : JobStatus
  retryCount : ℤ
  maxRetries : ℤ
  deriving DecidableEq

/-- `_update_job_status`: only the status is written, and columns that nothing reads. -/
def updateJobStatus (jobId : Text) (status : JobStatus) (jobs : List Job) : List Job :=
  jobs.map fun job => if job.id = jobId then { job with status } else job

/-- The rows that the sub-select of `_claim_pending_job` may give: the pending ones than which none
is older. -/
def Oldest (jobs : List Job) (job : Job) : Prop :=
  job ∈ jobs ∧ job.status = .pending ∧
    ∀ other ∈ jobs, other.status = .pending → job.createdAt ≤ other.createdAt

/-- However ties are broken, one of the next claims returns the job. -/
inductive WillBeReturned (id : Text) : List Job → Prop
  | next {jobs : List Job} (hsome : ∃ job, Oldest jobs job)
      (hnext : ∀ job, Oldest jobs job → job.id ≠ id →
        WillBeReturned id (updateJobStatus job.id .running jobs)) : WillBeReturned id jobs

variable {jobs : List Job} {job : Job}

theorem mem_updateJobStatus {jobId : Text} {status : JobStatus} :
    job ∈ updateJobStatus jobId status jobs ↔
      ∃ old ∈ jobs, job = if old.id = jobId then { old with status } else old := by
  simp only [updateJobStatus, List.mem_map, eq_comm]

theorem ids_updateJobStatus (jobId : Text) (status : JobStatus) (jobs : List Job) :
    (updateJobStatus jobId status jobs).map Job.id = jobs.map Job.id := by
  rw [updateJobStatus, List.map_map]
  refine List.map_congr_left fun job _ => ?_
  simp only [Function.comp_apply]
  split <;> rfl

theorem exists_oldest (hjob : job ∈ jobs) (hpending : job.status = .pending) :
    ∃ oldest, Oldest jobs oldest := by
  have hne : (jobs.filter fun job => job.status = .pending).toFinset.Nonempty :=
    ⟨job, by simp [hjob, hpending]⟩
  obtain ⟨oldest, hmem, hmin⟩ := Finset.exists_min_image _ Job.createdAt hne
  simp only [List.mem_toFinset, List.mem_filter, decide_eq_true_eq] at hmem hmin
  exact ⟨oldest, hmem.1, hmem.2, fun other hother hstatus => hmin other ⟨hother, hstatus⟩⟩

/-- A claim leaves fewer pending jobs. -/
theorem countP_updateJobStatus_lt (hjob : job ∈ jobs) (hpending : job.status = .pending)
    {status : JobStatus} (hstatus : status ≠ .pending) :
    (updateJobStatus job.id status jobs).countP (·.status = .pending) <
      jobs.countP (·.status = .pending) := by
  have hle (rows : List Job) : (updateJobStatus job.id status rows).countP (·.status = .pending) ≤
      rows.countP (·.status = .pending) := by
    rw [updateJobStatus, List.countP_map]
    refine List.countP_mono_left fun row _ hrow => ?_
    simp only [Function.comp_apply] at hrow
    split at hrow
    · exact absurd (of_decide_eq_true hrow) hstatus
    · exact hrow
  obtain ⟨before, after, rfl⟩ := List.append_of_mem hjob
  have hb := hle before
  have ha := hle after
  simp only [updateJobStatus, List.map_append, List.map_cons, List.countP_append, if_true] at hb ha ⊢
  rw [List.countP_cons_of_neg (by simpa using hstatus),
    List.countP_cons_of_pos (by simpa using hpending)]
  omega

theorem willBeReturned_of_pending (hjob : job ∈ jobs) (hpending : job.status = .pending) :
    WillBeReturned job.id jobs := by
  induction hn : jobs.countP (·.status = .pending) using Nat.strong_induction_on
    generalizing jobs with
  | _ n ih =>
    subst hn
    refine .next (exists_oldest hjob hpending) fun oldest holdest hne => ?_
    refine ih _ (countP_updateJobStatus_lt holdest.1 holdest.2.1 (by decide)) ?_ rfl
    exact mem_updateJobStatus.mpr ⟨job, hjob, by rw [if_neg (Ne.symm hne)]⟩

/-! ### The workers -/

/-- Where a worker is in `run_worker_forever`. -/
inductive Phase where
  | polling
  /-- Its claim waits for a row that another transaction has locked. -/
  | waiting (jobId : Text)
  /-- It has claimed a row, as `RETURNING` gave it, and its transaction is open. -/
  | syncing (job : Job)
  /-- It has committed `retrying` and sleeps. -/
  | backingOff (jobId : Text)
  | dead

/-- The worker has a job in its hands. -/
def Phase.Holds (jobId : Text) : Phase → Prop
  | .syncing job => job.id = jobId
  | .backingOff id => id = jobId
  | .polling | .waiting _ | .dead => False

/-- The committed rows, the workers, and a record of the outcomes that were committed. -/
structure World (Id : Type) where
  jobs : List Job
  phase : Id → Phase
  outcomes : List (Text × JobStatus)

namespace World

variable {Id : Type}

/-- No job, and every worker about to poll. -/
def initial : World Id := ⟨[], fun _ => .polling, []⟩

/-- An open transaction has locked the row. -/
def Locked (w : World Id) (jobId : Text) : Prop :=
  ∃ worker job, w.phase worker = .syncing job ∧ job.id = jobId

def goTo [DecidableEq Id] (w : World Id) (worker : Id) (phase : Phase) : World Id :=
  { w with phase := Function.update w.phase worker phase }

/-- A committed outcome. -/
def record (w : World Id) (jobId : Text) (status : JobStatus) : World Id :=
  { w with
    jobs := updateJobStatus jobId status w.jobs
    outcomes := w.outcomes ++ [(jobId, status)] }

/-- How often the sync of a job was executed to a recorded outcome. -/
def executed (w : World Id) (jobId : Text) : ℕ := w.outcomes.countP fun o => o.1 = jobId

/-- How often it was to be retried. -/
def retried (w : World Id) (jobId : Text) : ℕ :=
  w.outcomes.countP fun o => o = (jobId, .retrying)

end World

/-- The labels of the steps. -/
inductive Event (Id : Type) where
  | enqueue (job : Job)
  | poll (worker : Id)
  | proceed (worker : Id)
  | synced (worker : Id)
  | raised (worker : Id) (exc : SyncException)
  | wake (worker : Id)
  | loopError (worker : Id)
  | die (worker : Id)

section Steps

variable [PyRuntime] {Id : Type} [DecidableEq Id]

/-- `int(job.get("max_retries") or config["max_retries"])`. -/
def maxRetriesOf (configured : ℤ) (job : Job) : ℤ :=
  if job.maxRetries = 0 then configured else job.maxRetries

/-- `retry_count < max_retries and error_kind in _RETRYABLE_KINDS`. -/
def isRetried (configured : ℤ) (job : Job) (exc : SyncException) : Bool :=
  decide (job.retryCount < maxRetriesOf configured job) && (classifyError exc).isRetryable

/-- The steps of the workers. -/
inductive Step (configured : ℤ) : World Id → Event Id → World Id → Prop
  | enqueue {w : World Id} {job : Job} (hnew : ∀ other ∈ w.jobs, other.id ≠ job.id)
      (hpending : job.status = .pending) :
    Step configured w (.enqueue job) { w with jobs := w.jobs ++ [job] }
  | idle {w : World Id} {worker : Id} (hphase : w.phase worker = .polling)
      (hnone : ∀ job, ¬Oldest w.jobs job) : Step configured w (.poll worker) w
  | claim {w : World Id} {worker : Id} {job : Job} (hphase : w.phase worker = .polling)
      (hjob : Oldest w.jobs job) (hfree : ¬w.Locked job.id) :
    Step configured w (.poll worker)
      (w.goTo worker (.syncing { job with status := .running }))
  | wait {w : World Id} {worker : Id} {job : Job} (hphase : w.phase worker = .polling)
      (hjob : Oldest w.jobs job) (hlocked : w.Locked job.id) :
    Step configured w (.poll worker) (w.goTo worker (.waiting job.id))
  /-- The lock is gone, and the row still has the id that the sub-select gave. -/
  | proceed {w : World Id} {worker : Id} {job : Job} (hphase : w.phase worker = .waiting job.id)
      (hfree : ¬w.Locked job.id) (hjob : job ∈ w.jobs) :
    Step configured w (.proceed worker)
      (w.goTo worker (.syncing { job with status := .running }))
  /-- Or the database has evaluated the sub-select again. -/
  | passOver {w : World Id} {worker : Id} {jobId : Text} (hphase : w.phase worker = .waiting jobId)
      (hfree : ¬w.Locked jobId) : Step configured w (.proceed worker) (w.goTo worker .polling)
  | complete {w : World Id} {worker : Id} {job : Job} (hphase : w.phase worker = .syncing job) :
    Step configured w (.synced worker) ((w.record job.id .completed).goTo worker .polling)
  | retry {w : World Id} {worker : Id} {job : Job} {exc : SyncException}
      (hphase : w.phase worker = .syncing job) (hretried : isRetried configured job exc = true) :
    Step configured w (.raised worker exc)
      ((w.record job.id .retrying).goTo worker (.backingOff job.id))
  | fail {w : World Id} {worker : Id} {job : Job} {exc : SyncException}
      (hphase : w.phase worker = .syncing job) (hretried : isRetried configured job exc = false) :
    Step configured w (.raised worker exc) ((w.record job.id .failed).goTo worker .polling)
  | reset {w : World Id} {worker : Id} {jobId : Text} (hphase : w.phase worker = .backingOff jobId)
      (hfree : ¬w.Locked jobId) :
    Step configured w (.wake worker)
      ({ w with jobs := updateJobStatus jobId .pending w.jobs }.goTo worker .polling)
  /-- The outer handler: the transaction is rolled back, and the worker polls again. -/
  | loopError {w : World Id} {worker : Id} (hphase : w.phase worker ≠ .dead) :
    Step configured w (.loopError worker) (w.goTo worker .polling)
  | die (w : World Id) (worker : Id) : Step configured w (.die worker) (w.goTo worker .dead)

/-! ### The law -/

/-- No job is executed more often than it may be, and none is stranded. -/
structure SyncLaw (w : World Id) : Prop where
  bounded : ∀ job ∈ w.jobs, (w.executed job.id : ℤ) ≤ job.maxRetries + 1
  notStranded : ∀ job ∈ w.jobs, job.status ≠ .completed → job.status ≠ .failed →
    (∃ worker, (w.phase worker).Holds job.id) ∨ WillBeReturned job.id w.jobs

/-- The condition on a step. A job is created with a budget that is not negative, the row that a
claim picks is not locked, a job's sync does not fail in a way that is retried more often than the
row allows, and no worker stops between the two transactions of a retry. -/
def Meets (configured : ℤ) (w : World Id) : Event Id → Prop
  | .enqueue job => 0 ≤ job.maxRetries
  | .poll _ => ∀ job, Oldest w.jobs job → ¬w.Locked job.id
  | .raised worker exc => ∀ job, w.phase worker = .syncing job →
    isRetried configured job exc = true → (w.retried job.id : ℤ) < job.maxRetries
  | .loopError worker => ∀ jobId, w.phase worker ≠ .backingOff jobId
  | .die worker => ∀ jobId, w.phase worker ≠ .backingOff jobId
  | .proceed _ | .synced _ | .wake _ => True

end Steps

/-! ### The invariant -/

section Invariant

variable {Id : Type} {w : World Id} {worker : Id}

/-- What the place of a worker says about the table. -/
def Phase.Fits (jobs : List Job) : Phase → Prop
  | .polling | .dead => True
  | .waiting _ => False
  | .syncing job => ∃ row ∈ jobs, row.id = job.id ∧ row.status = .pending ∧
      row.maxRetries = job.maxRetries
  | .backingOff jobId => ∃ row ∈ jobs, row.id = jobId ∧ row.status = .retrying

/-- What the outcomes of a job say about its row. -/
structure RowSound (w : World Id) (job : Job) : Prop where
  known : job.status = .pending ∨ job.status = .retrying ∨ job.status = .completed ∨
    job.status = .failed
  backingOff : job.status = .retrying → ∃ worker, w.phase worker = .backingOff job.id
  executed : w.executed job.id =
    w.retried job.id + if job.status = .completed ∨ job.status = .failed then 1 else 0
  retried : (w.retried job.id : ℤ) ≤ job.maxRetries

/-- The invariant of the runs that meet the condition. -/
structure Sound (w : World Id) : Prop where
  distinct : (w.jobs.map Job.id).Nodup
  alone : ∀ worker worker' jobId, (w.phase worker).Holds jobId → (w.phase worker').Holds jobId →
    worker = worker'
  fits : ∀ worker, (w.phase worker).Fits w.jobs
  rows : ∀ job ∈ w.jobs, RowSound w job
  recorded : ∀ o ∈ w.outcomes, ∃ job ∈ w.jobs, job.id = o.1

theorem sound_initial : Sound (World.initial : World Id) where
  distinct := List.nodup_nil
  alone _ _ _ h := h.elim
  fits _ := trivial
  rows _ h := by cases h
  recorded _ h := by cases h

variable {job : Job} {jobs : List Job} {jobId : Text} {phase : Phase}

theorem Sound.row_eq (h : Sound w) {job' : Job} (hjob : job ∈ w.jobs) (hjob' : job' ∈ w.jobs)
    (hid : job.id = job'.id) : job = job' :=
  List.inj_on_of_nodup_map h.distinct hjob hjob' hid

theorem executed_record (w : World Id) (jobId id : Text) (status : JobStatus) :
    (w.record jobId status).executed id = w.executed id + if jobId = id then 1 else 0 := by
  simp [World.executed, World.record, List.countP_append, List.countP_singleton]

theorem retried_record (w : World Id) (jobId id : Text) (status : JobStatus) :
    (w.record jobId status).retried id =
      w.retried id + if jobId = id ∧ status = .retrying then 1 else 0 := by
  simp [World.retried, World.record, List.countP_append, List.countP_singleton]

theorem row_after {status : JobStatus} (hjob : job ∈ updateJobStatus jobId status jobs) :
    ∃ old ∈ jobs, old.id = job.id ∧
      old.maxRetries = job.maxRetries ∧ (job.id = jobId → job.status = status) ∧
      (job.id ≠ jobId → job = old) := by
  obtain ⟨old, hold, rfl⟩ := mem_updateJobStatus.mp hjob
  refine ⟨old, hold, ?_⟩
  split
  · rename_i hid
    exact ⟨rfl, rfl, fun _ => rfl, fun hne => absurd hid hne⟩
  · rename_i hid
    exact ⟨rfl, rfl, fun h => absurd h hid, fun _ => rfl⟩

/-- A statement about one job leaves what the places of workers with other jobs say. -/
theorem Phase.Fits.update (h : phase.Fits jobs) (hother : ¬phase.Holds jobId) (status : JobStatus) :
    phase.Fits (updateJobStatus jobId status jobs) := by
  cases phase with
  | polling => trivial
  | dead => trivial
  | waiting => exact h
  | syncing job =>
    obtain ⟨row, hrow, hid, hstatus, hmax⟩ := h
    refine ⟨row, mem_updateJobStatus.mpr ⟨row, hrow, ?_⟩, hid, hstatus, hmax⟩
    rw [if_neg fun h => hother (hid.symm.trans h)]
  | backingOff id =>
    obtain ⟨row, hrow, hid, hstatus⟩ := h
    refine ⟨row, mem_updateJobStatus.mpr ⟨row, hrow, ?_⟩, hid, hstatus⟩
    rw [if_neg fun h => hother (hid.symm.trans h)]

/-- Nobody has a pending job in hand that no transaction has locked. -/
theorem Sound.nobody (h : Sound w) (hjob : job ∈ w.jobs) (hpending : job.status = .pending)
    (hfree : ¬w.Locked job.id) (worker : Id) :
    ¬(w.phase worker).Holds job.id := by
  intro hholds
  have hfits := h.fits worker
  cases hphase : w.phase worker with
  | syncing other =>
    rw [hphase] at hholds
    exact hfree ⟨worker, other, hphase, hholds⟩
  | backingOff id =>
    rw [hphase] at hfits hholds
    obtain ⟨row, hrow, hid, hstatus⟩ := hfits
    rw [h.row_eq hrow hjob (hid.trans hholds), hpending] at hstatus
    cases hstatus
  | polling | waiting | dead =>
    rw [hphase] at hholds
    exact hholds

variable [DecidableEq Id]

theorem phase_goTo (w : World Id) (worker : Id) (phase : Phase) (other : Id) :
    (w.goTo worker phase).phase other = if other = worker then phase else w.phase other :=
  Function.update_apply ..

/-- A worker goes on with a job that nobody else has in hand, or with none. -/
theorem Sound.alone_goTo (h : Sound w)
    (hnew : ∀ jobId, phase.Holds jobId → ∀ other, other ≠ worker → ¬(w.phase other).Holds jobId)
    (a b : Id) (jobId : Text) (ha : ((w.goTo worker phase).phase a).Holds jobId)
    (hb : ((w.goTo worker phase).phase b).Holds jobId) : a = b := by
  rw [phase_goTo] at ha hb
  by_cases haw : a = worker <;> by_cases hbw : b = worker
  · rw [haw, hbw]
  · rw [if_pos haw] at ha
    rw [if_neg hbw] at hb
    exact absurd hb (hnew jobId ha b hbw)
  · rw [if_neg haw] at ha
    rw [if_pos hbw] at hb
    exact absurd ha (hnew jobId hb a haw)
  · rw [if_neg haw] at ha
    rw [if_neg hbw] at hb
    exact h.alone a b jobId ha hb

theorem exists_backingOff (h : ∃ other, w.phase other = .backingOff jobId)
    (hworker : w.phase worker ≠ .backingOff jobId) :
    ∃ other, (w.goTo worker phase).phase other = .backingOff jobId := by
  obtain ⟨other, hother⟩ := h
  refine ⟨other, ?_⟩
  rw [phase_goTo, if_neg, hother]
  rintro rfl
  exact hworker hother

theorem Sound.goTo (h : Sound w) (hold : ∀ jobId, w.phase worker ≠ .backingOff jobId)
    (hnew : ∀ jobId, phase.Holds jobId → ∀ other, other ≠ worker → ¬(w.phase other).Holds jobId)
    (hfits : phase.Fits w.jobs) : Sound (w.goTo worker phase) where
  distinct := h.distinct
  alone := h.alone_goTo hnew
  fits a := by
    rw [phase_goTo]
    split
    · exact hfits
    · exact h.fits a
  rows job hjob := by
    obtain ⟨hknown, hbacking, hexecuted, hretried⟩ := h.rows job hjob
    exact ⟨hknown, fun hstatus => exists_backingOff (hbacking hstatus) (hold _), hexecuted, hretried⟩
  recorded := h.recorded

theorem Sound.claim (h : Sound w) (hphase : w.phase worker = .polling) (hjob : Oldest w.jobs job)
    (hfree : ¬w.Locked job.id) :
    Sound (w.goTo worker (.syncing { job with status := .running })) := by
  refine h.goTo (by simp [hphase]) ?_ ⟨job, hjob.1, rfl, hjob.2.1, rfl⟩
  intro jobId hholds other _
  rw [← show job.id = jobId from hholds]
  exact h.nobody hjob.1 hjob.2.1 hfree other

/-- The outcome of a sync is recorded. -/
theorem Sound.record (h : Sound w) {status : JobStatus} (hphase : w.phase worker = .syncing job)
    (hstatus : status = .completed ∨ status = .failed ∨
      status = .retrying ∧ (w.retried job.id : ℤ) < job.maxRetries)
    (hnew : phase = if status = .retrying then .backingOff job.id else .polling) :
    Sound ((w.record job.id status).goTo worker phase) := by
  have hmine : (w.phase worker).Holds job.id := by rw [hphase]; exact rfl
  obtain ⟨row, hrow, hid, hpending, hmax⟩ : (Phase.syncing job).Fits w.jobs := hphase ▸ h.fits worker
  have hothers : ∀ other, other ≠ worker → ¬(w.phase other).Holds job.id := fun other hne hother =>
    hne (h.alone other worker job.id hother hmine)
  refine ⟨?_, h.alone_goTo ?_, fun a => ?_, fun job' hjob' => ?_, fun o ho => ?_⟩
  · show ((updateJobStatus job.id status w.jobs).map Job.id).Nodup
    rw [ids_updateJobStatus]
    exact h.distinct
  · intro jobId hholds other hne
    rw [hnew] at hholds
    split at hholds
    · rw [← show job.id = jobId from hholds]
      exact hothers other hne
    · exact hholds.elim
  · rw [phase_goTo]
    split
    · rw [hnew]
      split
      · rename_i hretrying
        refine ⟨{ row with status }, mem_updateJobStatus.mpr ⟨row, hrow, ?_⟩, hid, hretrying⟩
        rw [if_pos hid]
      · exact trivial
    · rename_i hne
      exact (h.fits a).update (hothers a hne) status
  · obtain ⟨old, hold, holdid, holdmax, hsame, hother⟩ := row_after hjob'
    obtain ⟨hknown, hbacking, hexecuted, hretried⟩ := h.rows old hold
    by_cases hjob : job'.id = job.id
    · -- The row of the outcome.
      have hrowold : row = old := h.row_eq hrow hold (by rw [hid, ← hjob, holdid])
      rw [← hrowold, hpending, if_neg (by decide), hid] at hexecuted
      rw [← hrowold, hid] at hretried
      have hstatus' : job'.status = status := hsame hjob
      have hmax' : job'.maxRetries = job.maxRetries := by rw [← holdmax, ← hrowold, hmax]
      refine ⟨?_, fun hretrying => ⟨worker, ?_⟩, ?_, ?_⟩
      · rw [hstatus']
        rcases hstatus with rfl | rfl | ⟨rfl, -⟩ <;> simp
      · rw [phase_goTo, if_pos rfl, hnew, if_pos (hstatus' ▸ hretrying), hjob]
      · show (w.record job.id status).executed job'.id = (w.record job.id status).retried job'.id + _
        rw [executed_record, retried_record, hstatus', hjob, hexecuted]
        rcases hstatus with rfl | rfl | ⟨rfl, -⟩ <;> simp
      · show ((w.record job.id status).retried job'.id : ℤ) ≤ job'.maxRetries
        rw [retried_record, hmax', hjob]
        rcases hstatus with rfl | rfl | ⟨rfl, hlt⟩
        · simpa [← hmax] using hretried
        · simpa [← hmax] using hretried
        · rw [if_pos ⟨rfl, rfl⟩]
          push_cast
          omega
    · obtain rfl := hother hjob
      refine ⟨hknown, fun hretrying => exists_backingOff (hbacking hretrying) ?_, ?_, ?_⟩
      · show w.phase worker ≠ _
        rw [hphase]
        simp
      · show (w.record job.id status).executed job'.id = (w.record job.id status).retried job'.id + _
        rw [executed_record, retried_record, if_neg (Ne.symm hjob), if_neg (by simp [Ne.symm hjob])]
        exact hexecuted
      · show ((w.record job.id status).retried job'.id : ℤ) ≤ job'.maxRetries
        rw [retried_record, if_neg (by simp [Ne.symm hjob])]
        exact hretried
  · have hknown : o.1 = job.id ∨ ∃ old ∈ w.jobs, old.id = o.1 := by
      rcases List.mem_append.mp ho with ho | ho
      · exact .inr (h.recorded o ho)
      · exact .inl (by rw [List.mem_singleton.mp ho])
    have hids : o.1 ∈ (updateJobStatus job.id status w.jobs).map Job.id := by
      rw [ids_updateJobStatus]
      rcases hknown with hknown | ⟨old, hold, hknown⟩
      · exact hknown ▸ hid ▸ List.mem_map_of_mem hrow
      · exact hknown ▸ List.mem_map_of_mem hold
    obtain ⟨new, hnew, hid⟩ := List.mem_map.mp hids
    exact ⟨new, hnew, hid⟩

/-- A job is to be claimed again. -/
theorem Sound.reset (h : Sound w) (hphase : w.phase worker = .backingOff jobId) :
    Sound ({ w with jobs := updateJobStatus jobId .pending w.jobs }.goTo worker .polling) := by
  have hmine : (w.phase worker).Holds jobId := by rw [hphase]; exact rfl
  have hothers : ∀ other, other ≠ worker → ¬(w.phase other).Holds jobId := fun other hne hother =>
    hne (h.alone other worker jobId hother hmine)
  obtain ⟨row, hrow, hid, hretrying⟩ : (Phase.backingOff jobId).Fits w.jobs := hphase ▸ h.fits worker
  refine ⟨?_, h.alone_goTo fun _ hholds => hholds.elim, fun a => ?_, fun job' hjob' => ?_,
    fun o ho => ?_⟩
  · show ((updateJobStatus jobId .pending w.jobs).map Job.id).Nodup
    rw [ids_updateJobStatus]
    exact h.distinct
  · rw [phase_goTo]
    split
    · exact trivial
    · rename_i hne
      exact (h.fits a).update (hothers a hne) .pending
  · obtain ⟨old, hold, holdid, holdmax, hsame, hother⟩ := row_after hjob'
    obtain ⟨hknown, hbacking, hexecuted, hretried⟩ := h.rows old hold
    by_cases hjob : job'.id = jobId
    · obtain rfl : row = old := h.row_eq hrow hold (by rw [hid, ← hjob, holdid])
      have hstatus' := hsame hjob
      rw [holdid, hretrying, if_neg (by decide)] at hexecuted
      refine ⟨.inl hstatus', fun h => ?_, ?_, ?_⟩
      · rw [hstatus'] at h
        cases h
      · rw [hstatus', if_neg (by decide)]
        exact hexecuted
      · rw [← holdmax, ← holdid]
        exact hretried
    · obtain rfl := hother hjob
      refine ⟨hknown, fun hstatus => exists_backingOff (hbacking hstatus) ?_, hexecuted, hretried⟩
      show w.phase worker ≠ _
      rw [hphase]
      simpa using Ne.symm hjob
  · have hids : o.1 ∈ (updateJobStatus jobId .pending w.jobs).map Job.id := by
      obtain ⟨old, hold, hknown⟩ := h.recorded o ho
      rw [ids_updateJobStatus]
      exact hknown ▸ List.mem_map_of_mem hold
    obtain ⟨new, hnew, hid⟩ := List.mem_map.mp hids
    exact ⟨new, hnew, hid⟩

omit [DecidableEq Id] in
theorem Phase.Fits.mono {jobs' : List Job} (h : phase.Fits jobs) (hjobs : ∀ job ∈ jobs, job ∈ jobs') :
    phase.Fits jobs' := by
  cases phase with
  | polling => trivial
  | dead => trivial
  | waiting => exact h
  | syncing job =>
    obtain ⟨row, hrow, hrest⟩ := h
    exact ⟨row, hjobs row hrow, hrest⟩
  | backingOff id =>
    obtain ⟨row, hrow, hrest⟩ := h
    exact ⟨row, hjobs row hrow, hrest⟩

omit [DecidableEq Id] in
/-- A job is created. -/
theorem Sound.enqueue (h : Sound w) (hnew : ∀ other ∈ w.jobs, other.id ≠ job.id)
    (hpending : job.status = .pending) (hmax : 0 ≤ job.maxRetries) :
    Sound { w with jobs := w.jobs ++ [job] } := by
  have hnone : ∀ o ∈ w.outcomes, o.1 ≠ job.id := by
    intro o ho hid
    obtain ⟨other, hother, hother'⟩ := h.recorded o ho
    exact hnew other hother (hother'.trans hid)
  refine ⟨?_, h.alone, fun a => (h.fits a).mono fun _ => List.mem_append_left _, ?_, fun o ho => ?_⟩
  · rw [List.map_append, List.map_singleton]
    refine List.nodup_append.mpr ⟨h.distinct, List.nodup_singleton _, fun id hid id' hid' heq => ?_⟩
    obtain ⟨other, hother, rfl⟩ := List.mem_map.mp hid
    exact hnew other hother (heq.trans (List.mem_singleton.mp hid'))
  · intro row hrow
    rcases List.mem_append.mp hrow with hrow | hrow
    · obtain ⟨hknown, hbacking, hexecuted, hretried⟩ := h.rows row hrow
      exact ⟨hknown, hbacking, hexecuted, hretried⟩
    · obtain rfl := List.mem_singleton.mp hrow
      have hexecuted : w.executed row.id = 0 := by
        rw [World.executed, List.countP_eq_zero]
        intro o ho
        simpa using hnone o ho
      have hretried : w.retried row.id = 0 := by
        rw [World.retried, List.countP_eq_zero]
        intro o ho hretried
        exact hnone o ho (by rw [of_decide_eq_true hretried])
      refine ⟨.inl hpending, fun hstatus => ?_, ?_, ?_⟩
      · rw [hpending] at hstatus
        cases hstatus
      · show w.executed row.id = w.retried row.id + _
        rw [hexecuted, hretried, hpending, if_neg (by decide)]
      · show (w.retried row.id : ℤ) ≤ _
        rw [hretried]
        exact hmax
  · obtain ⟨row, hrow, hid⟩ := h.recorded o ho
    exact ⟨row, List.mem_append_left _ hrow, hid⟩

/-- Every step that meets the condition keeps the invariant. -/
theorem Sound.step [PyRuntime] {configured : ℤ} {w' : World Id} {e : Event Id} (h : Sound w)
    (hstep : Step configured w e w') (hmeets : Meets configured w e) : Sound w' := by
  cases hstep with
  | enqueue hnew hpending => exact h.enqueue hnew hpending hmeets
  | idle => exact h
  | claim hphase hjob hfree => exact h.claim hphase hjob hfree
  | wait _ hjob hlocked => exact absurd hlocked (hmeets _ hjob)
  | @proceed worker _ hphase =>
    have hfits := h.fits worker
    rw [hphase] at hfits
    exact hfits.elim
  | @passOver worker _ hphase =>
    have hfits := h.fits worker
    rw [hphase] at hfits
    exact hfits.elim
  | complete hphase => exact h.record hphase (.inl rfl) rfl
  | retry hphase hretried =>
    exact h.record hphase (.inr (.inr ⟨rfl, hmeets _ hphase hretried⟩)) rfl
  | fail hphase => exact h.record hphase (.inr (.inl rfl)) rfl
  | reset hphase => exact h.reset hphase
  | loopError => exact h.goTo hmeets (fun _ hholds => hholds.elim) trivial
  | die => exact h.goTo hmeets (fun _ hholds => hholds.elim) trivial

omit [DecidableEq Id] in
theorem Sound.syncLaw (h : Sound w) : SyncLaw w where
  bounded job hjob := by
    obtain ⟨-, -, hexecuted, hretried⟩ := h.rows job hjob
    rw [hexecuted]
    split <;> push_cast <;> omega
  notStranded job hjob hcompleted hfailed := by
    obtain ⟨hknown, hbacking, -, -⟩ := h.rows job hjob
    rcases hknown with hstatus | hstatus | hstatus | hstatus
    · exact .inr (willBeReturned_of_pending hjob hstatus)
    · obtain ⟨worker, hworker⟩ := hbacking hstatus
      exact .inl ⟨worker, by rw [hworker]; exact rfl⟩
    · exact absurd hstatus hcompleted
    · exact absurd hstatus hfailed

open Transition in
/-- In every run whose steps all meet the condition, the law holds of every state. -/
theorem syncLaw_of_runs [PyRuntime] {configured : ℤ} {events : List (Event Id)}
    (h : Runs (Step configured) (Meets configured) World.initial events w) : SyncLaw w :=
  (h.invariant sound_initial fun _ _ _ hs hstep hmeets => hs.step hstep hmeets).syncLaw

end Invariant

section Example

open Transition

local instance sampleRuntimeSyncWorker : PyRuntime :=
  PyRuntime.ascii (fun q => .finite q) (fun _ => [])

/-- A job with the default budget. -/
def sampleJob (status : JobStatus) : Job := ⟨"sj-1", 0, status, 0, 3⟩

/-- One worker, one job, and as many outcomes `retrying`. -/
def oneWorker (status : JobStatus) (phase : Phase) (n : ℕ) : World Unit :=
  ⟨[sampleJob status], fun _ => phase, List.replicate n ("sj-1", .retrying)⟩

/-- The connector does not answer. -/
def refused : SyncException := ⟨.connectionError, "sync failed: connection"⟩

theorem goTo_oneWorker (status : JobStatus) (phase phase' : Phase) (n : ℕ) :
    (oneWorker status phase n).goTo () phase' = oneWorker status phase' n := by
  simp only [oneWorker, World.goTo, World.mk.injEq, true_and, and_true]
  funext worker
  exact Function.update_self ..

theorem enqueue_sample : Step 3 World.initial (.enqueue (sampleJob .pending))
    (oneWorker .pending .polling 0) :=
  .enqueue (by simp [World.initial]) rfl

theorem oldest_sample (phase : Phase) (n : ℕ) :
    Oldest (oneWorker .pending phase n).jobs (sampleJob .pending) :=
  ⟨List.mem_singleton.mpr rfl, rfl, fun other hother _ => by rw [List.mem_singleton.mp hother]⟩

theorem poll_sample (n : ℕ) : Step 3 (oneWorker .pending .polling n) (.poll ())
    (oneWorker .pending (.syncing (sampleJob .running)) n) := by
  rw [← goTo_oneWorker .pending .polling]
  refine .claim rfl (oldest_sample _ n) ?_
  rintro ⟨worker, job, hphase, -⟩
  cases hphase

theorem raised_sample (n : ℕ) : Step 3 (oneWorker .pending (.syncing (sampleJob .running)) n)
    (.raised () refused) (oneWorker .retrying (.backingOff "sj-1") (n + 1)) := by
  have hrecord : (oneWorker .pending (.syncing (sampleJob .running)) n).record "sj-1"
      .retrying = oneWorker .retrying (.syncing (sampleJob .running)) (n + 1) := by
    simp [oneWorker, World.record, sampleJob, updateJobStatus, List.replicate_succ']
  rw [← goTo_oneWorker .retrying (.syncing (sampleJob .running)), ← hrecord]
  have hphase : (oneWorker .pending (.syncing (sampleJob .running)) n).phase () =
    .syncing (sampleJob .running) := rfl
  exact .retry hphase (by decide)

theorem wake_sample (n : ℕ) : Step 3 (oneWorker .retrying (.backingOff "sj-1") n) (.wake ())
    (oneWorker .pending .polling n) := by
  have hstep : Step 3 (oneWorker .retrying (.backingOff "sj-1") n) (.wake ())
      ((oneWorker .pending (.backingOff "sj-1") n).goTo () .polling) := by
    have hphase : (oneWorker .retrying (.backingOff "sj-1") n).phase () =
      .backingOff "sj-1" := rfl
    refine .reset hphase ?_
    rintro ⟨worker, job, hlocked, -⟩
    cases hlocked
  rwa [goTo_oneWorker] at hstep

/-- A connector that never answers is tried without end. -/
theorem runs_sample (n : ℕ) : ∃ events, Runs (Step 3) (fun _ _ => True) World.initial events
    (oneWorker .pending .polling n) := by
  induction n with
  | zero => exact ⟨_, .one enqueue_sample trivial⟩
  | succ n ih =>
    obtain ⟨events, h⟩ := ih
    exact ⟨_, ((h.snoc (poll_sample n) trivial).snoc (raised_sample n) trivial).snoc
      (wake_sample (n + 1)) trivial⟩

/-- One retry, and the job can be claimed again. -/
theorem syncLaw_sample : SyncLaw (oneWorker .pending .polling 1) := by
  have hpoll : Meets 3 (oneWorker .pending .polling 0) (.poll ()) := by
    rintro job - ⟨worker, job', hphase, -⟩
    cases hphase
  have hraised : Meets 3 (oneWorker .pending (.syncing (sampleJob .running)) 0)
      (.raised () refused) := by
    intro job hphase _
    cases hphase
    decide
  have hruns : Runs (Step 3) (Meets 3) World.initial [.enqueue (sampleJob .pending), .poll (),
      .raised () refused, .wake ()] (oneWorker .pending .polling 1) :=
    .cons enqueue_sample (show (0 : ℤ) ≤ 3 by decide) (.cons (poll_sample 0) hpoll
      (.cons (raised_sample 0) hraised (.one (wake_sample 1) trivial)))
  exact syncLaw_of_runs hruns

/-- A sync that is refused is executed five times though it may be retried three times, and a worker
that dies between the two transactions of a retry leaves its job behind. -/
theorem syncLaw_fails :
    (∃ events w, Runs (Step 3) (fun _ _ => True) (World.initial : World Unit) events w ∧
      ∃ job ∈ w.jobs, job.maxRetries = 3 ∧ w.executed job.id = 5) ∧
    ∃ events w, Runs (Step 3) (fun _ _ => True) (World.initial : World Unit) events w ∧
      ∃ job ∈ w.jobs, job.status = .retrying ∧ (¬∃ worker, (w.phase worker).Holds job.id) ∧
        ¬WillBeReturned job.id w.jobs := by
  constructor
  · obtain ⟨events, h⟩ := runs_sample 5
    exact ⟨events, _, h, sampleJob .pending, List.mem_singleton.mpr rfl, rfl, by decide⟩
  · obtain ⟨events, h⟩ := runs_sample 0
    have hdie : Step 3 (oneWorker .retrying (.backingOff "sj-1") 1) (.die ())
        (oneWorker .retrying .dead 1) := by
      rw [← goTo_oneWorker .retrying (.backingOff "sj-1")]
      exact .die _ ()
    refine ⟨_, _, ((h.snoc (poll_sample 0) trivial).snoc (raised_sample 0) trivial).snoc hdie trivial,
      sampleJob .retrying, List.mem_singleton.mpr rfl, rfl, ?_, ?_⟩
    · rintro ⟨worker, hholds⟩
      exact hholds
    · rintro ⟨⟨job, hjob, hpending, -⟩, -⟩
      rw [List.mem_singleton.mp hjob] at hpending
      cases hpending

end Example

end SyncWorker

end Connectors

end DqMadeEasy
