import DqMadeEasy.Logic.Keyed
import DqMadeEasy.Logic.Pool
import DqMadeEasy.Logic.Sorted
import DqMadeEasy.Worker.Error

/-!
# Sync schedules of connectors

A schedule has the time of its next run. A scheduler lists the schedules that are due, creates a job
for each and then moves its next run time on, in two writes with a computation between them. Any
number of schedulers may do so at once, every call may fail, and a scheduler may stop at any point.
-/

namespace DqMadeEasy

namespace Connectors

open Worker

/-! ### The next run time -/

/-- Microseconds since the first instant that a `datetime` can name, in UTC. -/
abbrev Instant := ℤ

/-- `datetime.max`. -/
def maxInstant : Instant := 315537897599999999

def minute : ℤ := 60000000

def hour : ℤ := 60 * minute

def day : ℤ := 24 * hour

def week : ℤ := 7 * day

/-- A `timedelta`, of at most 999999999 days. -/
def timedelta (microseconds : ℤ) : Except PyError ℤ :=
  if (microseconds / day).natAbs ≤ 999999999 then .ok microseconds
  else .error (.builtin "OverflowError" "days out of range; must have magnitude <= 999999999")

/-- `from_dt + delta`. -/
def addDelta (fromDt : Instant) (delta : ℤ) : Except PyError Instant :=
  if 0 ≤ fromDt + delta ∧ fromDt + delta ≤ maxInstant then .ok (fromDt + delta)
  else .error (.builtin "OverflowError" "date value out of range")

/-- The names of the frequencies that have a length, with it. -/
def units : List (Text × ℤ) :=
  [("minute", minute), ("hour", hour), ("day", day), ("week", week)]

/-- `delta_map`: all four are built, whichever is asked for. -/
def deltaMap (intervalCount : ℤ) : Except PyError (List (Text × ℤ)) :=
  units.mapM fun unit => do
    let delta ← timedelta (intervalCount * unit.2)
    pure (unit.1, delta)

def computeNextRun (frequency : Text) (intervalCount : ℤ) (cronExpression : Option Text)
    (fromDt : Instant) : Except PyError (Option Instant) :=
  if cronExpression.getD [] ≠ [] then do
    -- A placeholder: sixty seconds.
    let next ← addDelta fromDt minute
    pure (some next)
  else do
    let deltas ← deltaMap intervalCount
    match Assoc.find? deltas frequency with
    | none => pure none
    | some delta =>
      let next ← addDelta fromDt delta
      pure (some next)

/-! ### The tables -/

/-- A sync schedule. -/
structure Schedule where
  id : Text
  connectorInstanceId : Text
  frequency : Text
  cronExpression : Option Text
  intervalCount : ℤ
  nextRunAt : Option Instant
  lastRunAt : Option Instant
  lastJobId : Option Text
  isActive : Bool
  deriving DecidableEq

/-- A time that a schedule is due. -/
abbrev Occurrence := Text × Option Instant

def Schedule.occurrence (schedule : Schedule) : Occurrence := (schedule.id, schedule.nextRunAt)

/-- A sync job, with the due time of a schedule that it was created for. -/
structure SyncJob where
  id : Text
  connectorInstanceId : Text
  occurrence : Occurrence

/-- A write of a next run time: for which due time, when and to what. -/
structure Advance where
  occurrence : Occurrence
  at_ : Instant
  next : Instant

/-- The tables, and a record of the writes of next run times and of the due times for which a
scheduler failed before it created a job. -/
structure Store where
  instances : List Text
  schedules : List Schedule
  jobs : List SyncJob
  advances : List Advance
  failed : List Occurrence

namespace Store

/-- Nothing was created. -/
def initial : Store := ⟨[], [], [], [], []⟩

def schedule? (s : Store) (id : Text) : Option Schedule := Keyed.find? Schedule.id s.schedules id

def listDueSchedules (s : Store) (now : Instant) : List Schedule :=
  (Sorted.sortOn (fun schedule => schedule.nextRunAt.getD 0) (s.schedules.filter fun schedule =>
    schedule.isActive && schedule.nextRunAt.any fun next => decide (next ≤ now))).take 50

end Store

/-- The arguments of `create_sync_schedule`. -/
structure ScheduleRequest where
  connectorInstanceId : Text
  frequency : Text
  intervalCount : ℤ
  cronExpression : Option Text

/-- `ConnectorScheduleFrequency`. -/
def scheduleFrequencies : List Text := units.map Prod.fst ++ ["cron".toList]

/-- `interval_count or 1`. -/
def intervalOrOne (intervalCount : ℤ) : ℤ := if intervalCount = 0 then 1 else intervalCount

def createSyncSchedule (request : ScheduleRequest) (id : Text) (now : Instant) (s : Store) :
    Except PyError Store :=
  if request.connectorInstanceId ∉ s.instances then
    .error (.builtin "ValueError" "connector instance not found")
  else do
    let nextRun ← computeNextRun request.frequency request.intervalCount request.cronExpression now
    let intervalCount := intervalOrOne request.intervalCount
    if request.frequency ∉ scheduleFrequencies then
      .error (.builtin "ValidationError" "frequency")
    -- The primary key and the range of the column.
    else if (s.schedule? id).isSome ∨ 2 ^ 31 ≤ intervalCount ∨ intervalCount < -2 ^ 31 then
      .error (.builtin "IntegrityError" "connector_sync_schedules")
    else
      .ok { s with schedules := s.schedules ++ [{
        id
        connectorInstanceId := Text.strip request.connectorInstanceId
        frequency := request.frequency
        cronExpression := request.cronExpression
        intervalCount
        nextRunAt := nextRun
        lastRunAt := none
        lastJobId := none
        isActive := true }] }

/-! ### The scheduler -/

/-- What the scheduler calls; each call names the schedule that it is made for. -/
inductive Call where
  /-- `get_instance`. -/
  | getInstance (schedule : Schedule)
  /-- `create_job`. -/
  | createJob (schedule : Schedule)
  /-- `update_schedule`. -/
  | updateSchedule (schedule : Schedule) (lastRunAt : Instant) (lastJobId : Text)
      (nextRunAt : Instant)

abbrev Call.Answer : Call → Type
  | .getInstance _ => Bool
  | .createJob _ => Text
  | .updateSchedule .. => Unit

/-- How a call goes: the instance is looked up or the look-up raises; a job is created under an
identifier; a schedule is written. -/
abbrev Call.How : Call → Type
  | .getInstance _ => Option PyError
  | .createJob _ => Text × Pool.Fate PyError Unit
  | .updateSchedule .. => Pool.Fate PyError Unit

/-- What the scheduler does. -/
abbrev Work (α : Type) := Program Call Call.Answer PyError α

def make (call : Call) : Work call.Answer := .perform call

/-- `except Exception`. -/
def exceptException {α : Type} (handler : PyError → Work α) (work : Work α) : Work α :=
  work.rescue fun exc => if exc.severity = .exception then handler exc else .raise exc

def createSyncJob (schedule : Schedule) : Work Text := do
  let found ← make (.getInstance schedule)
  if found then make (.createJob schedule)
  else .raise (.builtin "ValueError" "connector instance not found")

/-- The update of a schedule whose job was created. -/
def advanceSchedule (now : Instant) (schedule : Schedule) (jobId : Text) : Work Unit :=
  match computeNextRun schedule.frequency schedule.intervalCount schedule.cronExpression now with
  | .error exc => .raise exc
  | .ok none => .raise (.builtin "AttributeError" "'NoneType' object has no attribute 'isoformat'")
  | .ok (some next) => make (.updateSchedule schedule now jobId next)

/-- The body of the loop of `trigger_due_schedules`, with the created jobs. -/
def triggerSchedule (now : Instant) (createdJobs : List Text) (schedule : Schedule) :
    Work (List Text) := do
  match ← (createSyncJob schedule).ending with
  | .error exc => if exc.severity = .exception then pure createdJobs else .raise exc
  | .ok jobId =>
    exceptException (fun _ => pure (createdJobs ++ [jobId])) do
      advanceSchedule now schedule jobId
      pure (createdJobs ++ [jobId])

/-- `trigger_due_schedules`, after the listing. -/
def triggerDueSchedules (now : Instant) (dueSchedules : List Schedule) : Work (List Text) :=
  dueSchedules.foldlM (triggerSchedule now) []

/-- A call of `trigger_due_schedules`: when it lists the schedules, which it lists, and its time. -/
structure Tick where
  listedAt : Instant
  due : List Schedule
  now : Instant

/-- The effect of a call, in the way that it goes. -/
def Store.perform : (call : Call) → call.How → Store → Except PyError call.Answer × Store
  | .getInstance schedule, some exc, s =>
    (.error exc, { s with failed := s.failed ++ [schedule.occurrence] })
  | .getInstance schedule, none, s =>
    if schedule.connectorInstanceId ∈ s.instances then (.ok true, s)
    else (.ok false, { s with failed := s.failed ++ [schedule.occurrence] })
  | .createJob schedule, (jobId, fate), s =>
    if jobId ∈ s.jobs.map SyncJob.id then
      -- The primary key.
      (.error (.builtin "IntegrityError" "connector_sync_jobs"),
        { s with failed := s.failed ++ [schedule.occurrence] })
    else if fate.effective then
      (fate.answer.map fun _ => jobId, { s with
        jobs := s.jobs ++ [⟨jobId, schedule.connectorInstanceId, schedule.occurrence⟩] })
    else
      (fate.answer.map fun _ => jobId, { s with failed := s.failed ++ [schedule.occurrence] })
  | .updateSchedule schedule lastRunAt lastJobId nextRunAt, fate, s =>
    match s.schedule? schedule.id with
    | some row =>
      if fate.effective then
        (fate.answer, { s with
          schedules := Keyed.replace Schedule.id { row with
            nextRunAt := some nextRunAt
            lastRunAt := some lastRunAt
            lastJobId := some lastJobId } s.schedules
          advances := s.advances ++ [⟨schedule.occurrence, lastRunAt, nextRunAt⟩] })
      else (fate.answer, s)
    | none => (fate.answer, s)

/-- What happens outside the schedulers. -/
inductive Outside where
  | addInstance (id : Text)
  | removeInstance (id : Text)
  | createSchedule (request : ScheduleRequest) (id : Text) (now : Instant)

/-- The schedulers: a tick begins with its listing. -/
def site : Pool.Workplace Tick Store Call Call.Answer PyError Call.How Outside where
  program tick := do
    let _ ← triggerDueSchedules tick.now tick.due
    pure ()
  begin_ tick s :=
    if tick.due = s.listDueSchedules tick.listedAt ∧ 0 ≤ tick.now ∧ tick.now ≤ maxInstant then some s
    else none
  perform := Store.perform
  outside
    | .addInstance id, s => { s with instances := id :: s.instances }
    | .removeInstance id, s => { s with instances := s.instances.filter (· ≠ id) }
    | .createSchedule request id now, s =>
      match createSyncSchedule request id now s with
      | .ok s' => s'
      | .error _ => s

abbrev Schedulers (Id : Type) := Pool Id Tick Store Call Call.Answer PyError

/-- The labels of their steps. -/
abbrev Event (Id : Type) := Pool.Event Id Tick Call Call.How Outside

/-! ### The law -/

def Updates (rest : Work Unit) (schedule : Schedule) : Prop :=
  ∃ lastRunAt lastJobId nextRunAt next,
    rest = .call (.updateSchedule schedule lastRunAt lastJobId nextRunAt) next

/-- The due times that a job was created for. -/
def Store.triggered (s : Store) : List Occurrence := s.jobs.map SyncJob.occurrence

/-- The claim's law. There is one job at most for a due time. A next run time is written for a due
time that has its job, and lies after the time of its tick. A due time that has its job had its next
run time written, or a live scheduler is about to. A tick that is through has created a job for
every schedule that it listed, but for those that failed before. -/
structure OneJobPerDue {Id : Type} (p : Schedulers Id) : Prop where
  once : p.shared.triggered.Nodup
  later : ∀ a ∈ p.shared.advances, a.occurrence ∈ p.shared.triggered ∧ a.at_ < a.next
  advanced : ∀ o ∈ p.shared.triggered, o ∈ p.shared.advances.map Advance.occurrence ∨
    ∃ worker tick rest schedule, p.phase worker = some (tick, rest) ∧ Updates rest schedule ∧
      schedule.occurrence = o
  through : ∀ worker tick, p.phase worker = some (tick, .done ()) → ∀ schedule ∈ tick.due,
    schedule.occurrence ∈ p.shared.triggered ∨ schedule.occurrence ∈ p.shared.failed

def Schedule.step (schedule : Schedule) : ℤ :=
  if schedule.cronExpression.getD [] ≠ [] then minute
  else schedule.intervalCount * (Assoc.find? units schedule.frequency).getD 0

/-- The steps that keep the law. The interval of a schedule that goes by it is not negative; the
clock does not go back within a tick; a job is created, and answered for, while the schedule is at
the due time that was listed, no other scheduler is about to update it, and there is an instant to
move it on to; the update of a schedule takes effect, and its scheduler does not stop before it. -/
def Careful {Id : Type} (p : Schedulers Id) : Event Id → Prop
  | .outside (.createSchedule request _ _) => request.intervalCount < 0 →
    request.cronExpression.getD [] ≠ [] ∨ request.frequency ∉ units.map Prod.fst
  | .begin_ _ tick => tick.listedAt ≤ tick.now
  | .call worker (.createJob schedule) (_, fate) => fate.effective = true →
    (∃ a, fate.answer = .ok a) ∧
    (∃ row, p.shared.schedule? schedule.id = some row ∧ row.nextRunAt = schedule.nextRunAt) ∧
    (∀ other tick rest schedule', other ≠ worker → p.phase other = some (tick, rest) →
      Updates rest schedule' → schedule'.id ≠ schedule.id) ∧
    ∀ tick rest, p.phase worker = some (tick, rest) → tick.now + schedule.step ≤ maxInstant
  | .call _ (.updateSchedule ..) fate => fate.effective = true
  | .crash worker => ∀ tick rest schedule, p.phase worker = some (tick, rest) →
    ¬Updates rest schedule
  | .outside (.addInstance _) | .outside (.removeInstance _) | .call _ (.getInstance _) _
  | .finish _ => True

/-! ### The points of the program -/

section Points

variable (now : Instant)

def loop (rest : List Schedule) (createdJobs : List Text) : Work Unit := do
  let _ ← rest.foldlM (triggerSchedule now) createdJobs
  pure ()

def afterError (rest : List Schedule) (createdJobs : List Text) (exc : PyError) : Work Unit :=
  if exc.severity = .exception then loop now rest createdJobs else .raise exc

def afterUpdate (rest : List Schedule) (createdJobs : List Text) :
    Except PyError Unit → Work Unit
  | .ok _ => loop now rest createdJobs
  | .error exc => afterError now rest createdJobs exc

/-- The loop after the creation of a job. -/
def afterJob (schedule : Schedule) (rest : List Schedule) (createdJobs : List Text) :
    Except PyError Text → Work Unit
  | .error exc => afterError now rest createdJobs exc
  | .ok jobId =>
    match computeNextRun schedule.frequency schedule.intervalCount schedule.cronExpression now with
    | .error exc => afterError now rest (createdJobs ++ [jobId]) exc
    | .ok none => loop now rest (createdJobs ++ [jobId])
    | .ok (some next) =>
      .call (.updateSchedule schedule now jobId next) (afterUpdate now rest (createdJobs ++ [jobId]))

/-- The loop after the look-up of an instance. -/
def afterInstance (schedule : Schedule) (rest : List Schedule) (createdJobs : List Text) :
    Except PyError Bool → Work Unit
  | .error exc => afterError now rest createdJobs exc
  | .ok false => loop now rest createdJobs
  | .ok true => .call (.createJob schedule) (afterJob now schedule rest createdJobs)

variable {now} {schedule : Schedule} {rest : List Schedule} {createdJobs : List Text}

/-- An error that is caught leaves the loop to go on. -/
theorem afterError_eq (exc : PyError) :
    (do
      let _ ← (if exc.severity = .exception then pure createdJobs else .raise exc :
        Work (List Text)) >>= fun created => rest.foldlM (triggerSchedule now) created
      pure ()) = afterError now rest createdJobs exc := by
  rw [afterError]
  split <;> rfl

/-- The rest of an iteration after its job was created. -/
theorem afterJob_ok (jobId : Text) :
    (do
      let _ ← exceptException (fun _ => pure (createdJobs ++ [jobId])) (do
        advanceSchedule now schedule jobId
        pure (createdJobs ++ [jobId])) >>= fun created =>
          rest.foldlM (triggerSchedule now) created
      pure ()) = afterJob now schedule rest createdJobs (.ok jobId) := by
  rw [afterJob, advanceSchedule]
  cases computeNextRun schedule.frequency schedule.intervalCount schedule.cronExpression now with
  | error exc => exact afterError_eq exc
  | ok next =>
    cases next with
    | none => rfl
    | some next =>
      refine congrArg (Program.call (Call.updateSchedule schedule now jobId next))
        (funext fun answer => ?_)
      cases answer with
      | ok a => rfl
      | error exc => exact afterError_eq exc

theorem loop_cons : loop now (schedule :: rest) createdJobs =
    .call (.getInstance schedule) (afterInstance now schedule rest createdJobs) := by
  refine congrArg (Program.call (Call.getInstance schedule)) (funext fun answer => ?_)
  cases answer with
  | error exc => exact afterError_eq exc
  | ok found =>
    cases found with
    | false => rfl
    | true =>
      refine congrArg (Program.call (Call.createJob schedule)) (funext fun answer => ?_)
      cases answer with
      | error exc => exact afterError_eq exc
      | ok jobId => exact afterJob_ok jobId

end Points

/-! ### Schedules that recur -/

/-- A schedule whose next run time can be computed and lies in the future. -/
def Schedule.Recurs (schedule : Schedule) : Prop :=
  schedule.cronExpression.getD [] ≠ [] ∨
    (schedule.cronExpression.getD [] = [] ∧ schedule.frequency ∈ units.map Prod.fst ∧
      0 < schedule.intervalCount ∧ ∃ deltas, deltaMap schedule.intervalCount = .ok deltas)

/-- The entries of `delta_map`. -/
theorem deltaMap_ok {intervalCount : ℤ} {deltas : List (Text × ℤ)}
    (h : deltaMap intervalCount = .ok deltas) :
    deltas = Assoc.mapValues (fun unit => intervalCount * unit) units := by
  rw [deltaMap] at h
  generalize units = names at h ⊢
  induction names generalizing deltas with
  | nil =>
    cases h
    rfl
  | cons unit names ih =>
    rw [List.mapM_cons] at h
    obtain ⟨entry, hentry, h⟩ := ok_of_bind h
    obtain ⟨rest, hrest, h⟩ := ok_of_bind h
    obtain ⟨delta, hdelta, hentry⟩ := ok_of_bind hentry
    cases h
    cases hentry
    rw [Assoc.mapValues, List.map_cons, ← Assoc.mapValues, ← ih hrest]
    rw [timedelta] at hdelta
    split at hdelta
    · cases hdelta
      rfl
    · cases hdelta

theorem find?_units_pos {frequency : Text} (h : frequency ∈ units.map Prod.fst) :
    ∃ unit, Assoc.find? units frequency = some unit ∧ 0 < unit := by
  have hall : (units.map Prod.fst).all (fun name =>
      (Assoc.find? units name).any fun unit => decide (0 < unit)) = true := by decide +kernel
  have hany := List.all_eq_true.mp hall frequency h
  cases hfind : Assoc.find? units frequency with
  | none =>
    rw [hfind] at hany
    cases hany
  | some unit =>
    rw [hfind] at hany
    exact ⟨unit, rfl, of_decide_eq_true hany⟩

theorem Schedule.Recurs.step_pos {schedule : Schedule} (h : schedule.Recurs) :
    0 < schedule.step := by
  rcases h with hcron | ⟨hcron, hfrequency, hpos, _⟩
  · rw [Schedule.step, if_pos hcron]
    decide
  · obtain ⟨unit, hunit, hunitpos⟩ := find?_units_pos hfrequency
    rw [Schedule.step, if_neg (not_not.mpr hcron), hunit, Option.getD_some]
    exact Int.mul_pos hpos hunitpos

/-- The next run time of a schedule that recurs. -/
theorem computeNextRun_of_recurs {schedule : Schedule} (h : schedule.Recurs) {now : Instant}
    (hnow : 0 ≤ now) (hrange : now + schedule.step ≤ maxInstant) :
    computeNextRun schedule.frequency schedule.intervalCount schedule.cronExpression now =
      .ok (some (now + schedule.step)) := by
  have hadd : ∀ {delta : ℤ}, 0 < delta → now + delta ≤ maxInstant →
      addDelta now delta = .ok (now + delta) := by
    intro delta hpos hle
    rw [addDelta, if_pos ⟨Int.add_nonneg hnow hpos.le, hle⟩]
  have hstep := h.step_pos
  rcases h with hcron | ⟨hcron, hfrequency, hpos, deltas, hdeltas⟩
  · rw [Schedule.step, if_pos hcron] at hrange ⊢
    rw [computeNextRun, if_pos hcron, hadd (by decide) hrange]
    rfl
  · obtain ⟨unit, hunit, hunitpos⟩ := find?_units_pos hfrequency
    rw [Schedule.step, if_neg (not_not.mpr hcron), hunit, Option.getD_some] at hstep hrange ⊢
    rw [computeNextRun, if_neg (not_not.mpr hcron), hdeltas]
    have hfind : Assoc.find? deltas schedule.frequency = some (schedule.intervalCount * unit) := by
      rw [deltaMap_ok hdeltas, Assoc.find?_mapValues, hunit, Option.map_some]
    simp only [bind, Except.bind, hfind, hadd hstep hrange]
    rfl

/-- What has a next run time recurs, unless it goes by a negative interval. -/
theorem recurs_of_computeNextRun {frequency : Text} {intervalCount : ℤ}
    {cronExpression : Option Text} {now next : Instant}
    (h : computeNextRun frequency intervalCount cronExpression now = .ok (some next)) :
    cronExpression.getD [] ≠ [] ∨ (cronExpression.getD [] = [] ∧
      frequency ∈ units.map Prod.fst ∧ ∃ deltas, deltaMap intervalCount = .ok deltas) := by
  rw [computeNextRun] at h
  split at h
  · exact .inl ‹_›
  · rename_i hcron
    obtain ⟨deltas, hdeltas, h⟩ := ok_of_bind h
    refine .inr ⟨not_not.mp hcron, ?_, deltas, hdeltas⟩
    split at h
    · cases h
    · rename_i delta hfind
      have hmem := Assoc.mem_of_find? hfind
      rw [deltaMap_ok hdeltas] at hmem
      obtain ⟨unit, hunit, heq⟩ := List.mem_map.mp hmem
      exact List.mem_map.mpr ⟨unit, hunit, (Prod.mk.inj heq).1⟩

/-- What `create_sync_schedule` accepts is a new row; one with a next run time recurs, unless it
goes by a negative interval. -/
theorem createSyncSchedule_ok {request : ScheduleRequest} {id : Text} {now : Instant}
    {s s' : Store} (h : createSyncSchedule request id now s = .ok s') :
    ∃ row, s' = { s with schedules := s.schedules ++ [row] } ∧ s.schedule? row.id = none ∧
      ((request.intervalCount < 0 → request.cronExpression.getD [] ≠ [] ∨
        request.frequency ∉ units.map Prod.fst) → row.nextRunAt.isSome → row.Recurs) := by
  rw [createSyncSchedule] at h
  split at h
  · cases h
  obtain ⟨nextRun, hnext, h⟩ := ok_of_bind h
  dsimp only at h
  split at h
  · cases h
  split at h
  · cases h
  rename_i hkey
  cases h
  refine ⟨_, rfl, ?_, fun hinterval hdue => ?_⟩
  · rw [not_or, Bool.not_eq_true, Option.isSome_eq_false_iff, Option.isNone_iff_eq_none] at hkey
    exact hkey.1
  · obtain ⟨next, rfl⟩ := Option.isSome_iff_exists.mp hdue
    rcases recurs_of_computeNextRun hnext with hcron | ⟨hcron, hfrequency, hdeltas⟩
    · exact .inl hcron
    · have hnonneg : 0 ≤ request.intervalCount := by
        by_contra hneg
        rcases hinterval (not_le.mp hneg) with h | h
        · exact h hcron
        · exact h hfrequency
      refine .inr ⟨hcron, hfrequency, ?_⟩
      show 0 < intervalOrOne _ ∧ ∃ deltas, deltaMap (intervalOrOne _) = .ok deltas
      rw [intervalOrOne]
      by_cases hzero : request.intervalCount = 0
      · rw [if_pos hzero]
        exact ⟨by decide, _, rfl⟩
      · rw [if_neg hzero]
        exact ⟨lt_of_le_of_ne hnonneg (Ne.symm hzero), hdeltas⟩

/-! ### The invariant -/

/-- A schedule that a tick has turned to. -/
def Handled (s : Store) (schedule : Schedule) : Prop :=
  schedule.occurrence ∈ s.triggered ∨ schedule.occurrence ∈ s.failed

def StillDue (s : Store) (schedule : Schedule) : Prop :=
  ∃ row, s.schedule? schedule.id = some row ∧ row.nextRunAt = schedule.nextRunAt

/-- Where a tick is, and what it knows there. -/
inductive Point (s : Store) (tick : Tick) : Work Unit → Prop
  | loop {handled rest : List Schedule} (createdJobs : List Text) (hdue : tick.due = handled ++ rest)
      (hhandled : ∀ schedule ∈ handled, Handled s schedule) :
    Point s tick (loop tick.now rest createdJobs)
  | creating {handled rest : List Schedule} {schedule : Schedule} (createdJobs : List Text)
      (hdue : tick.due = handled ++ schedule :: rest)
      (hhandled : ∀ schedule ∈ handled, Handled s schedule) :
    Point s tick (.call (.createJob schedule) (afterJob tick.now schedule rest createdJobs))
  | updating {handled rest : List Schedule} {schedule : Schedule} (createdJobs : List Text)
      (jobId : Text) (hdue : tick.due = handled ++ schedule :: rest)
      (hhandled : ∀ schedule ∈ handled, Handled s schedule)
      (htriggered : schedule.occurrence ∈ s.triggered) (hrow : StillDue s schedule) :
    Point s tick (.call (.updateSchedule schedule tick.now jobId (tick.now + schedule.step))
      (afterUpdate tick.now rest createdJobs))
  | raised (exc : PyError) : Point s tick (.raise exc)

/-- The schedules that a tick listed recur and are due. -/
structure Tick.Due (tick : Tick) : Prop where
  now : 0 ≤ tick.now
  recurs : ∀ schedule ∈ tick.due, schedule.Recurs
  past : ∀ schedule ∈ tick.due, ∃ due, schedule.nextRunAt = some due ∧ due ≤ tick.now

/-- A scheduler is about to update the schedule with the due time. -/
def Advancing {Id : Type} (p : Schedulers Id) (o : Occurrence) : Prop :=
  ∃ worker tick rest schedule, p.phase worker = some (tick, rest) ∧ Updates rest schedule ∧
    schedule.occurrence = o

/-- The invariant of the tables: due times lie before the next run time of their schedule. -/
structure Store.Sound (s : Store) : Prop where
  rows : ∀ row ∈ s.schedules, row.nextRunAt.isSome → row.Recurs
  once : s.triggered.Nodup
  later : ∀ a ∈ s.advances, a.occurrence ∈ s.triggered ∧ a.at_ < a.next
  past : ∀ a ∈ s.advances, ∃ row due next, s.schedule? a.occurrence.1 = some row ∧
    a.occurrence.2 = some due ∧ row.nextRunAt = some next ∧ due < next

/-- The invariant of the runs whose steps are careful. -/
structure Sound {Id : Type} (p : Schedulers Id) : Prop where
  store : p.shared.Sound
  advanced : ∀ o ∈ p.shared.triggered,
    o ∈ p.shared.advances.map Advance.occurrence ∨ Advancing p o
  due : ∀ worker tick rest, p.phase worker = some (tick, rest) → tick.Due
  points : ∀ worker tick rest, p.phase worker = some (tick, rest) → Point p.shared tick rest
  /-- No two schedulers are about to update one schedule. -/
  apart : ∀ worker tick rest schedule worker' tick' rest' schedule',
    p.phase worker = some (tick, rest) → Updates rest schedule →
    p.phase worker' = some (tick', rest') → Updates rest' schedule' →
    schedule.id = schedule'.id → worker = worker'

section Invariant

variable {s s' : Store} {tick : Tick} {rest : Work Unit} {schedule : Schedule}

variable {lastRunAt nextRunAt : Instant} {lastJobId : Text} {rest' : Work Unit}

theorem updates_call {next : Except PyError Unit → Work Unit} {schedule' : Schedule}
    (h : Updates (.call (.updateSchedule schedule lastRunAt lastJobId nextRunAt) next) schedule') :
    schedule' = schedule := by
  obtain ⟨_, _, _, _, heq⟩ := h
  cases heq
  rfl

/-- The loop between two schedules is about to look up an instance, or through. -/
theorem not_updates_loop (now : Instant) (schedules : List Schedule) (createdJobs : List Text)
    (schedule : Schedule) : ¬Updates (loop now schedules createdJobs) schedule := by
  rintro ⟨_, _, _, _, heq⟩
  cases schedules with
  | nil => cases heq
  | cons first schedules =>
    rw [loop_cons] at heq
    cases heq

theorem not_updates_raise (exc : PyError) : ¬Updates (.raise exc) schedule := by
  rintro ⟨_, _, _, _, heq⟩
  cases heq

theorem not_updates_creating {first : Schedule} {next : Except PyError Text → Work Unit} :
    ¬Updates (.call (.createJob first) next) schedule := by
  rintro ⟨_, _, _, _, heq⟩
  cases heq

/-- A point is kept when no record is lost, and the schedule that is being updated stays. -/
theorem Point.frame (h : Point s tick rest) (htriggered : ∀ o ∈ s.triggered, o ∈ s'.triggered)
    (hfailed : ∀ o ∈ s.failed, o ∈ s'.failed)
    (hrow : ∀ schedule, Updates rest schedule → StillDue s schedule → StillDue s' schedule) :
    Point s' tick rest := by
  have hhandled : ∀ schedule, Handled s schedule → Handled s' schedule := fun schedule h =>
    h.imp (htriggered _) (hfailed _)
  cases h with
  | loop createdJobs hdue hbefore =>
    exact .loop createdJobs hdue fun schedule hmem => hhandled _ (hbefore schedule hmem)
  | creating createdJobs hdue hbefore =>
    exact .creating createdJobs hdue fun schedule hmem => hhandled _ (hbefore schedule hmem)
  | updating createdJobs jobId hdue hbefore htriggered' hrow' =>
    exact .updating createdJobs jobId hdue (fun schedule hmem => hhandled _ (hbefore schedule hmem))
      (htriggered _ htriggered') (hrow _ ⟨_, _, _, _, rfl⟩ hrow')
  | raised exc => exact .raised exc

theorem Point.next {handled schedules : List Schedule} (createdJobs : List Text)
    (hdue : tick.due = handled ++ schedule :: schedules)
    (hhandled : ∀ schedule ∈ handled, Handled s schedule) (h : Handled s schedule) :
    Point s tick (Connectors.loop tick.now schedules createdJobs) := by
  have hdue' : tick.due = (handled ++ [schedule]) ++ schedules := by
    rw [hdue, List.append_assoc, List.singleton_append]
  refine .loop createdJobs hdue' fun other hmem => ?_
  rcases List.mem_append.mp hmem with hmem | hmem
  · exact hhandled other hmem
  · exact (List.mem_singleton.mp hmem) ▸ h

theorem Point.afterError {handled schedules : List Schedule} (createdJobs : List Text)
    (hdue : tick.due = handled ++ schedule :: schedules)
    (hhandled : ∀ schedule ∈ handled, Handled s schedule) (h : Handled s schedule)
    (exc : PyError) : Point s tick (Connectors.afterError tick.now schedules createdJobs exc) := by
  rw [Connectors.afterError]
  split
  · exact .next createdJobs hdue hhandled h
  · exact .raised exc

theorem not_updates_afterError (now : Instant) (schedules : List Schedule)
    (createdJobs : List Text) (exc : PyError) :
    ¬Updates (afterError now schedules createdJobs exc) schedule := by
  rw [afterError]
  split
  · exact not_updates_loop _ _ _ _
  · exact not_updates_raise exc

variable {Id : Type} {p : Schedulers Id}

/-- The law, from the invariant. -/
theorem Sound.oneJobPerDue (h : Sound p) : OneJobPerDue p where
  once := h.store.once
  later := h.store.later
  advanced := h.advanced
  through := by
    intro worker tick hphase schedule hmem
    have hpoint := h.points worker tick _ hphase
    generalize hrest : (Program.done () : Work Unit) = rest at hpoint
    cases hpoint with
    | @loop handled schedules createdJobs hdue hhandled =>
      cases schedules with
      | nil =>
        rw [hdue, List.append_nil] at hmem
        exact hhandled schedule hmem
      | cons first schedules =>
        rw [loop_cons] at hrest
        cases hrest
    | creating => cases hrest
    | updating => cases hrest
    | raised => cases hrest

theorem sound_initial : Sound (Pool.idle .initial : Schedulers Id) where
  store :=
    { rows := fun _ h => absurd h List.not_mem_nil
      once := List.nodup_nil
      later := fun _ h => absurd h List.not_mem_nil
      past := fun _ h => absurd h List.not_mem_nil }
  advanced := fun _ h => absurd h List.not_mem_nil
  due := by
    intro worker tick rest h
    cases h
  points := by
    intro worker tick rest h
    cases h
  apart := by
    intro worker tick rest schedule worker' tick' rest' schedule' h
    cases h

variable [DecidableEq Id] {worker : Id}

/-- A scheduler that is not about to update a schedule leaves. -/
theorem Sound.leave (h : Sound p) (hupdates : ∀ tick rest schedule,
    p.phase worker = some (tick, rest) → ¬Updates rest schedule) :
    Sound (p.put worker p.shared none) where
  store := h.store
  advanced := by
    intro o ho
    refine (h.advanced o ho).imp id ?_
    rintro ⟨other, tick, rest, schedule, hphase, hupdate, heq⟩
    have hne : other ≠ worker := by
      rintro rfl
      exact hupdates _ _ _ hphase hupdate
    exact ⟨other, tick, rest, schedule, (Pool.phase_put_of_ne hne _).trans hphase, hupdate, heq⟩
  due := fun other tick rest hother => h.due other tick rest (Pool.phase_of_put_none hother).2
  points := fun other tick rest hother => h.points other tick rest (Pool.phase_of_put_none hother).2
  apart := by
    intro other tick rest schedule other' tick' rest' schedule' hother hupdate hother' hupdate'
    exact h.apart _ _ _ _ _ _ _ _ (Pool.phase_of_put_none hother).2 hupdate
      (Pool.phase_of_put_none hother').2 hupdate'

/-- A scheduler gets to a point of its tick. -/
theorem Sound.put (h : Sound p) (hstore : s'.Sound)
    (hadvanced : ∀ o ∈ s'.triggered, o ∈ s'.advances.map Advance.occurrence ∨
      Advancing (p.put worker s' (some (tick, rest'))) o) (hdue : tick.Due)
    (hpoint : Point s' tick rest')
    (hothers : ∀ other tick rest, other ≠ worker → p.phase other = some (tick, rest) →
      Point s' tick rest)
    (hapart : ∀ schedule, Updates rest' schedule → ∀ other tick rest schedule', other ≠ worker →
      p.phase other = some (tick, rest) → Updates rest schedule' → schedule'.id ≠ schedule.id) :
    Sound (p.put worker s' (some (tick, rest'))) where
  store := hstore
  advanced := hadvanced
  due := by
    intro other tick' rest hother
    rcases Pool.phase_of_put_some hother with ⟨_, rfl, _⟩ | ⟨_, hbefore⟩
    · exact hdue
    · exact h.due other tick' rest hbefore
  points := by
    intro other tick' rest hother
    rcases Pool.phase_of_put_some hother with ⟨_, rfl, rfl⟩ | ⟨hne, hbefore⟩
    · exact hpoint
    · exact hothers other tick' rest hne hbefore
  apart := by
    intro other tick₁ rest₁ schedule₁ other' tick₂ rest₂ schedule₂ hother hupdate hother' hupdate'
      heq
    rcases Pool.phase_of_put_some hother with ⟨rfl, rfl, rfl⟩ | ⟨hne, hbefore⟩ <;>
      rcases Pool.phase_of_put_some hother' with ⟨rfl, rfl, rfl⟩ | ⟨hne', hbefore'⟩
    · rfl
    · exact absurd heq.symm (hapart _ hupdate _ _ _ _ hne' hbefore' hupdate')
    · exact absurd heq (hapart _ hupdate' _ _ _ _ hne hbefore hupdate)
    · exact h.apart _ _ _ _ _ _ _ _ hbefore hupdate hbefore' hupdate' heq

/-- A scheduler that is about to update a schedule, after a step of another one. -/
theorem Advancing.put {o : Occurrence} (h : Advancing p o)
    (hphase : ∀ tick rest schedule, p.phase worker = some (tick, rest) → ¬Updates rest schedule) :
    Advancing (p.put worker s' (some (tick, rest'))) o := by
  obtain ⟨other, tick', rest, schedule, hother, hupdate, heq⟩ := h
  have hne : other ≠ worker := by
    rintro rfl
    exact hphase _ _ _ hother hupdate
  exact ⟨other, tick', rest, schedule, (Pool.phase_put_of_ne hne _).trans hother, hupdate, heq⟩

/-- A step of a scheduler that writes nothing but failures, between two points that are no updates
of a schedule. -/
theorem Sound.quiet (h : Sound p) {failed : List Occurrence}
    (hfailed : ∀ o ∈ p.shared.failed, o ∈ failed)
    (hphase : ∀ tick rest schedule, p.phase worker = some (tick, rest) → ¬Updates rest schedule)
    (hdue : tick.Due) (hpoint : Point { p.shared with failed } tick rest')
    (hupdates : ∀ schedule, ¬Updates rest' schedule) :
    Sound (p.put worker { p.shared with failed } (some (tick, rest'))) := by
  refine h.put ⟨h.store.rows, h.store.once, h.store.later, h.store.past⟩ ?_ hdue hpoint ?_ ?_
  · intro o ho
    exact (h.advanced o ho).imp id fun h => h.put hphase
  · intro other tick' rest _ hother
    exact (h.points other tick' rest hother).frame (fun _ h => h) hfailed fun _ _ h => h
  · intro schedule hupdate
    exact absurd hupdate (hupdates schedule)

omit [DecidableEq Id] in
theorem Point.at_getInstance {next : Except PyError Bool → Work Unit}
    (h : Point s tick (.call (.getInstance schedule) next)) :
    ∃ handled schedules createdJobs, tick.due = handled ++ schedule :: schedules ∧
      (∀ schedule ∈ handled, Handled s schedule) ∧
      next = afterInstance tick.now schedule schedules createdJobs := by
  generalize hrest : (.call (.getInstance schedule) next : Work Unit) = rest at h
  cases h with
  | @loop handled schedules createdJobs hdue hhandled =>
    cases schedules with
    | nil => cases hrest
    | cons first schedules =>
      rw [loop_cons] at hrest
      cases hrest
      exact ⟨handled, schedules, createdJobs, hdue, hhandled, rfl⟩
  | creating => cases hrest
  | updating => cases hrest
  | raised => cases hrest

omit [DecidableEq Id] in
theorem Point.at_createJob {next : Except PyError Text → Work Unit}
    (h : Point s tick (.call (.createJob schedule) next)) :
    ∃ handled schedules createdJobs, tick.due = handled ++ schedule :: schedules ∧
      (∀ schedule ∈ handled, Handled s schedule) ∧
      next = afterJob tick.now schedule schedules createdJobs := by
  generalize hrest : (.call (.createJob schedule) next : Work Unit) = rest at h
  cases h with
  | @loop handled schedules createdJobs hdue hhandled =>
    cases schedules with
    | nil => cases hrest
    | cons first schedules =>
      rw [loop_cons] at hrest
      cases hrest
  | creating createdJobs hdue hhandled =>
    cases hrest
    exact ⟨_, _, createdJobs, hdue, hhandled, rfl⟩
  | updating => cases hrest
  | raised => cases hrest

omit [DecidableEq Id] in
theorem Point.at_updateSchedule {next : Except PyError Unit → Work Unit}
    (h : Point s tick (.call (.updateSchedule schedule lastRunAt lastJobId nextRunAt) next)) :
    ∃ handled schedules createdJobs, tick.due = handled ++ schedule :: schedules ∧
      (∀ schedule ∈ handled, Handled s schedule) ∧
      next = afterUpdate tick.now schedules createdJobs ∧ lastRunAt = tick.now ∧
      nextRunAt = tick.now + schedule.step ∧ schedule.occurrence ∈ s.triggered ∧
      StillDue s schedule := by
  generalize hrest : (.call (.updateSchedule schedule lastRunAt lastJobId nextRunAt) next :
    Work Unit) = rest at h
  cases h with
  | @loop handled schedules createdJobs hdue hhandled =>
    cases schedules with
    | nil => cases hrest
    | cons first schedules =>
      rw [loop_cons] at hrest
      cases hrest
  | creating => cases hrest
  | updating createdJobs jobId hdue hhandled htriggered hrow =>
    cases hrest
    exact ⟨_, _, createdJobs, hdue, hhandled, rfl, rfl, rfl, htriggered, hrow⟩
  | raised => cases hrest

omit [DecidableEq Id] in
theorem mem_failed_append {failed : List Occurrence} (o : Occurrence) :
    ∀ o' ∈ failed, o' ∈ failed ++ [o] := fun _ h => List.mem_append_left _ h

omit [DecidableEq Id] in
theorem handled_failed (s : Store) (schedule : Schedule) :
    Handled { s with failed := s.failed ++ [schedule.occurrence] } schedule :=
  .inr (List.mem_append_right _ List.mem_cons_self)

/-- The look-up of an instance. -/
theorem Sound.getInstance (h : Sound p) {next : Except PyError Bool → Work Unit}
    (hphase : p.phase worker = some (tick, .call (.getInstance schedule) next))
    (how : Option PyError) :
    Sound (p.put worker (p.shared.perform (.getInstance schedule) how).2
      (some (tick, next (p.shared.perform (.getInstance schedule) how).1))) := by
  obtain ⟨handled, schedules, createdJobs, hdue, hhandled, rfl⟩ :=
    (h.points _ _ _ hphase).at_getInstance
  have hnot : ∀ tick rest schedule, p.phase worker = some (tick, rest) →
      ¬Updates rest schedule := by
    rintro tick' rest schedule' hphase' ⟨_, _, _, _, rfl⟩
    cases hphase.symm.trans hphase'
  have hhandled' : ∀ other ∈ handled,
      Handled { p.shared with failed := p.shared.failed ++ [schedule.occurrence] } other :=
    fun other hmem => (hhandled other hmem).imp id (mem_failed_append _ _)
  cases how with
  | some exc =>
    exact h.quiet (mem_failed_append _) hnot (h.due _ _ _ hphase)
      (.afterError createdJobs hdue hhandled' (handled_failed _ _) exc)
      fun _ => not_updates_afterError _ _ _ exc
  | none =>
    rw [Store.perform]
    split
    · exact h.quiet (fun _ h => h) hnot (h.due _ _ _ hphase) (.creating createdJobs hdue hhandled)
        fun _ => not_updates_creating
    · exact h.quiet (mem_failed_append _) hnot (h.due _ _ _ hphase)
        (.next createdJobs hdue hhandled' (handled_failed _ _)) fun _ => not_updates_loop _ _ _ _

omit [DecidableEq Id] in
theorem Sound.not_triggered (h : Sound p) (hrow : StillDue p.shared schedule)
    (hothers : ∀ o, Advancing p o → o.1 ≠ schedule.id) :
    schedule.occurrence ∉ p.shared.triggered := by
  intro hmem
  rcases h.advanced _ hmem with hadvanced | hadvancing
  · obtain ⟨a, ha, heq⟩ := List.mem_map.mp hadvanced
    obtain ⟨row, due, next, hfind, hdue, hnext, hlt⟩ := h.store.past a ha
    obtain ⟨row', hfind', hnext'⟩ := hrow
    rw [heq] at hfind hdue
    cases hfind.symm.trans hfind'
    have hsame : some next = some due := hnext.symm.trans (hnext'.trans hdue)
    cases hsame
    exact lt_irrefl _ hlt
  · exact hothers _ hadvancing rfl

/-- The creation of a job. -/
theorem Sound.createJob (h : Sound p) {next : Except PyError Text → Work Unit}
    (hphase : p.phase worker = some (tick, .call (.createJob schedule) next)) {jobId : Text}
    {fate : Pool.Fate PyError Unit}
    (hcareful : Careful p (.call worker (.createJob schedule) (jobId, fate))) :
    Sound (p.put worker (p.shared.perform (.createJob schedule) (jobId, fate)).2
      (some (tick, next (p.shared.perform (.createJob schedule) (jobId, fate)).1))) := by
  obtain ⟨handled, schedules, createdJobs, hdue, hhandled, rfl⟩ :=
    (h.points _ _ _ hphase).at_createJob
  have hnot : ∀ tick rest schedule, p.phase worker = some (tick, rest) →
      ¬Updates rest schedule := by
    rintro tick' rest schedule' hphase' ⟨_, _, _, _, rfl⟩
    cases hphase.symm.trans hphase'
  have hhandled' : ∀ other ∈ handled,
      Handled { p.shared with failed := p.shared.failed ++ [schedule.occurrence] } other :=
    fun other hmem => (hhandled other hmem).imp id (mem_failed_append _ _)
  have hquiet : ∀ exc, Sound (p.put worker
      { p.shared with failed := p.shared.failed ++ [schedule.occurrence] }
      (some (tick, afterError tick.now schedules createdJobs exc))) := fun exc =>
    h.quiet (mem_failed_append _) hnot (h.due _ _ _ hphase)
      (.afterError createdJobs hdue hhandled' (handled_failed _ _) exc)
      fun _ => not_updates_afterError _ _ _ exc
  rw [Store.perform]
  split
  · exact hquiet _
  split
  · rename_i heffective
    obtain ⟨⟨a, hanswer⟩, hrow, hothers, hrange⟩ := hcareful heffective
    have hticked := h.due _ _ _ hphase
    have hmem : schedule ∈ tick.due := by
      rw [hdue]
      exact List.mem_append_right _ List.mem_cons_self
    have hnext := computeNextRun_of_recurs (hticked.recurs _ hmem) hticked.now
      (hrange _ _ hphase)
    have hrest : afterJob tick.now schedule schedules createdJobs (fate.answer.map fun _ => jobId) =
        .call (.updateSchedule schedule tick.now jobId (tick.now + schedule.step))
          (afterUpdate tick.now schedules (createdJobs ++ [jobId])) := by
      rw [hanswer]
      show afterJob tick.now schedule schedules createdJobs (.ok jobId) = _
      rw [afterJob, hnext]
    rw [hrest]
    have hnew := h.not_triggered hrow fun o hadvancing heq => by
      obtain ⟨other, tick', rest, schedule', hother, hupdate, rfl⟩ := hadvancing
      refine hothers other tick' rest schedule' ?_ hother hupdate heq
      rintro rfl
      exact hnot _ _ _ hother hupdate
    have htriggered : ∀ o ∈ p.shared.triggered, o ∈ Store.triggered { p.shared with
        jobs := p.shared.jobs ++ [⟨jobId, schedule.connectorInstanceId, schedule.occurrence⟩] } := by
      intro o ho
      rw [Store.triggered, List.map_append]
      exact List.mem_append_left _ ho
    have hjob : schedule.occurrence ∈ Store.triggered { p.shared with
        jobs := p.shared.jobs ++ [⟨jobId, schedule.connectorInstanceId, schedule.occurrence⟩] } := by
      rw [Store.triggered, List.map_append]
      exact List.mem_append_right _ List.mem_cons_self
    have hupdates : Updates (.call (.updateSchedule schedule tick.now jobId
        (tick.now + schedule.step)) (afterUpdate tick.now schedules (createdJobs ++ [jobId])))
        schedule := ⟨_, _, _, _, rfl⟩
    refine h.put ⟨h.store.rows, ?_, ?_, h.store.past⟩ ?_ hticked ?_ ?_ ?_
    · rw [Store.triggered, List.map_append]
      exact List.nodup_append.mpr ⟨h.store.once, List.nodup_singleton _, fun o ho o' ho' heq => by
        rw [heq, List.mem_singleton.mp ho'] at ho
        exact hnew ho⟩
    · intro a ha
      exact (h.store.later a ha).imp (htriggered _) id
    · intro o ho
      rw [Store.triggered, List.map_append] at ho
      rcases List.mem_append.mp ho with ho | ho
      · exact (h.advanced o ho).imp id fun h => h.put hnot
      · rw [List.map_singleton, List.mem_singleton] at ho
        exact .inr ⟨worker, tick, _, schedule, Pool.phase_put_self .., hupdates, ho.symm⟩
    · exact .updating (createdJobs ++ [jobId]) jobId hdue
        (fun other hmem => (hhandled other hmem).imp (htriggered _) id) hjob hrow
    · intro other tick' rest _ hother
      exact (h.points other tick' rest hother).frame htriggered (fun _ h => h) fun _ _ h => h
    · intro schedule' hupdate' other tick' rest schedule'' hne hother hupdate''
      rw [updates_call hupdate']
      exact hothers other tick' rest schedule'' hne hother hupdate''
  · rename_i heffective
    cases fate with
    | served a => exact absurd rfl heffective
    | refused exc => exact hquiet exc
    | interrupted exc => exact absurd rfl heffective

omit [DecidableEq Id] in
theorem schedule?_replace {row row' : Schedule} (hrow : s.schedule? row'.id = some row)
    (id : Text) :
    Keyed.find? Schedule.id (Keyed.replace Schedule.id row' s.schedules) id =
      if id = row'.id then some row' else s.schedule? id :=
  Keyed.find?_replace (by rw [← Store.schedule?, hrow]; rfl) id

/-- The update of a schedule. -/
theorem Sound.updateSchedule (h : Sound p) {next : Except PyError Unit → Work Unit}
    (hphase : p.phase worker =
      some (tick, .call (.updateSchedule schedule lastRunAt lastJobId nextRunAt) next))
    {fate : Pool.Fate PyError Unit} (heffective : fate.effective = true) :
    Sound (p.put worker
      (p.shared.perform (.updateSchedule schedule lastRunAt lastJobId nextRunAt) fate).2
      (some (tick, next
        (p.shared.perform (.updateSchedule schedule lastRunAt lastJobId nextRunAt) fate).1))) := by
  obtain ⟨handled, schedules, createdJobs, hdue, hhandled, rfl, rfl, rfl, htriggered, hrow⟩ :=
    (h.points _ _ _ hphase).at_updateSchedule
  have hticked := h.due _ _ _ hphase
  have hmem : schedule ∈ tick.due := by
    rw [hdue]
    exact List.mem_append_right _ List.mem_cons_self
  have hupdates : Updates (.call (.updateSchedule schedule tick.now lastJobId
      (tick.now + schedule.step)) (afterUpdate tick.now schedules createdJobs)) schedule :=
    ⟨_, _, _, _, rfl⟩
  obtain ⟨row, hfind, hnextRun⟩ := hrow
  obtain ⟨due, hscheduleDue, hpast⟩ := hticked.past _ hmem
  have hstep := (hticked.recurs _ hmem).step_pos
  rw [Store.perform, hfind]
  dsimp only
  rw [if_pos heffective]
  dsimp only
  let row' : Schedule := { row with
    nextRunAt := some (tick.now + schedule.step)
    lastRunAt := some tick.now
    lastJobId := some lastJobId }
  have hkey : row.id = schedule.id := Keyed.key_of_find? hfind
  have hid : row'.id = schedule.id := hkey
  have hfind' : p.shared.schedule? row'.id = some row := by rw [hid, hfind]
  have hrows := schedule?_replace hfind'
  have hbefore : row.nextRunAt = some due := hnextRun.trans hscheduleDue
  have hlater : tick.now < tick.now + schedule.step := Int.lt_add_of_pos_right _ hstep
  have hdueLater : due < tick.now + schedule.step := lt_of_le_of_lt hpast hlater
  have hhandledNow : Handled p.shared schedule := .inl htriggered
  have hothers : ∀ other tick' rest' schedule', other ≠ worker →
      p.phase other = some (tick', rest') → Updates rest' schedule' →
      schedule'.id ≠ row'.id := by
    intro other tick' rest' schedule' hne hother hupdate heq
    exact hne (h.apart _ _ _ _ _ _ _ _ hother hupdate hphase hupdates (heq.trans hid))
  refine h.put ⟨?_, h.store.once, ?_, ?_⟩ ?_ hticked ?_ ?_ ?_
  · intro other hother hsome
    rcases Keyed.mem_of_mem_replace hother with rfl | hother
    · exact h.store.rows row (List.mem_of_find?_eq_some hfind) (by rw [hbefore]; rfl)
    · exact h.store.rows other hother hsome
  · intro a ha
    rcases List.mem_append.mp ha with ha | ha
    · exact h.store.later a ha
    · rw [List.mem_singleton.mp ha]
      exact ⟨htriggered, hlater⟩
  · intro a ha
    rcases List.mem_append.mp ha with ha | ha
    · obtain ⟨rowₐ, dueₐ, nextₐ, hfindₐ, hdueₐ, hnextₐ, hlt⟩ := h.store.past a ha
      by_cases hsame : a.occurrence.1 = row'.id
      · rw [hsame, hfind'] at hfindₐ
        cases hfindₐ
        cases hnextₐ.symm.trans hbefore
        refine ⟨row', dueₐ, tick.now + schedule.step, ?_, hdueₐ, rfl, hlt.trans hdueLater⟩
        rw [Store.schedule?, hrows, if_pos hsame]
      · refine ⟨rowₐ, dueₐ, nextₐ, ?_, hdueₐ, hnextₐ, hlt⟩
        rw [Store.schedule?, hrows, if_neg hsame, hfindₐ]
    · rw [List.mem_singleton.mp ha]
      refine ⟨row', due, tick.now + schedule.step, ?_, hscheduleDue, rfl, hdueLater⟩
      rw [Store.schedule?, hrows, if_pos (show schedule.occurrence.1 = row'.id from hid.symm)]
  · intro o ho
    rw [List.map_append]
    rcases h.advanced o ho with hadvanced | ⟨other, tick', rest', schedule', hother, hupdate, heq⟩
    · exact .inl (List.mem_append_left _ hadvanced)
    · by_cases hne : other = worker
      · subst hne
        cases hphase.symm.trans hother
        rw [updates_call hupdate] at heq
        exact .inl (List.mem_append_right _ (List.mem_singleton.mpr heq.symm))
      · exact .inr ⟨other, tick', rest', schedule', (Pool.phase_put_of_ne hne _).trans hother,
          hupdate, heq⟩
  · cases fate with
    | served a => exact .next createdJobs hdue hhandled hhandledNow
    | refused exc => cases heffective
    | interrupted exc =>
      refine Point.afterError createdJobs hdue ?_ ?_ exc
      · exact hhandled
      · exact hhandledNow
  · intro other tick' rest' hne hother
    refine (h.points other tick' rest' hother).frame (fun _ h => h) (fun _ h => h) ?_
    rintro schedule' hupdate ⟨row₁, hfind₁, hnext₁⟩
    refine ⟨row₁, ?_, hnext₁⟩
    rw [Store.schedule?, hrows, if_neg (hothers _ _ _ _ hne hother hupdate), hfind₁]
  · intro schedule' hupdate
    cases fate with
    | served a => exact absurd hupdate (not_updates_loop _ _ _ _)
    | refused exc => cases heffective
    | interrupted exc => exact absurd hupdate (not_updates_afterError _ _ _ exc)

omit [DecidableEq Id] in
theorem schedule?_append {row : Schedule} (hnew : s.schedule? row.id = none) {id : Text}
    {found : Schedule} (h : s.schedule? id = some found) :
    Keyed.find? Schedule.id (s.schedules ++ [row]) id = some found := by
  rw [Keyed.find?_append hnew, if_neg, ← Store.schedule?, h]
  rintro rfl
  cases hnew.symm.trans h

omit [DecidableEq Id] in
/-- A schedule is created. -/
theorem Sound.addSchedule (h : Sound p) {row : Schedule} (hnew : p.shared.schedule? row.id = none)
    (hrow : row.nextRunAt.isSome → row.Recurs) :
    Sound { p with shared := { p.shared with schedules := p.shared.schedules ++ [row] } } where
  store :=
    { rows := by
        intro other hother
        rcases List.mem_append.mp hother with hother | hother
        · exact h.store.rows other hother
        · rw [List.mem_singleton.mp hother]
          exact hrow
      once := h.store.once
      later := h.store.later
      past := by
        intro a ha
        obtain ⟨rowₐ, due, next, hfind, hrest⟩ := h.store.past a ha
        exact ⟨rowₐ, due, next, schedule?_append hnew hfind, hrest⟩ }
  advanced := h.advanced
  due := h.due
  points := by
    intro worker tick rest hphase
    refine (h.points worker tick rest hphase).frame (fun _ h => h) (fun _ h => h) ?_
    rintro schedule _ ⟨found, hfind, hnext⟩
    exact ⟨found, schedule?_append hnew hfind, hnext⟩
  apart := h.apart

omit [DecidableEq Id] in
theorem Sound.instances (h : Sound p) (instances : List Text) :
    Sound { p with shared := { p.shared with instances } } where
  store := ⟨h.store.rows, h.store.once, h.store.later, h.store.past⟩
  advanced := h.advanced
  due := h.due
  points := fun worker tick rest hphase => (h.points worker tick rest hphase).frame
    (fun _ h => h) (fun _ h => h) fun _ _ h => h
  apart := h.apart

omit [DecidableEq Id] in
/-- What a tick lists is due. -/
theorem due_of_listed (h : s.Sound) {tick : Tick} (hlisted : tick.due = s.listDueSchedules tick.listedAt)
    (hnow : 0 ≤ tick.now) (hclock : tick.listedAt ≤ tick.now) : tick.Due := by
  have hrow : ∀ schedule ∈ tick.due, schedule ∈ s.schedules ∧
      ∃ due, schedule.nextRunAt = some due ∧ due ≤ tick.listedAt := by
    intro schedule hmem
    rw [hlisted, Store.listDueSchedules] at hmem
    have hfiltered := Sorted.mem_sortOn.mp (List.mem_of_mem_take hmem)
    obtain ⟨hrow, hdue⟩ := List.mem_filter.mp hfiltered
    refine ⟨hrow, ?_⟩
    rw [Bool.and_eq_true, Option.any_eq_true] at hdue
    obtain ⟨_, due, hnext, hle⟩ := hdue
    exact ⟨due, hnext, of_decide_eq_true hle⟩
  refine ⟨hnow, fun schedule hmem => ?_, fun schedule hmem => ?_⟩
  · obtain ⟨hrow, due, hnext, _⟩ := hrow schedule hmem
    exact h.rows schedule hrow (by rw [hnext]; rfl)
  · obtain ⟨_, due, hnext, hle⟩ := hrow schedule hmem
    exact ⟨due, hnext, le_trans hle hclock⟩

/-- The step lemma. -/
theorem Sound.step (h : Sound p) {e : Event Id} {p' : Schedulers Id}
    (hstep : Pool.Step site p e p') (hcareful : Careful p e) : Sound p' := by
  cases hstep with
  | outside o =>
    cases o with
    | addInstance id => exact h.instances _
    | removeInstance id => exact h.instances _
    | createSchedule request id now =>
      show Sound { p with shared := match createSyncSchedule request id now p.shared with
        | .ok s' => s'
        | .error _ => p.shared }
      cases hcreate : createSyncSchedule request id now p.shared with
      | error exc => exact h
      | ok s' =>
        obtain ⟨row, rfl, hnew, hrow⟩ := createSyncSchedule_ok hcreate
        exact h.addSchedule hnew (hrow hcareful)
  | begin_ hphase hbegin =>
    rename_i worker tick shared
    change (if _ then some p.shared else none) = some shared at hbegin
    split at hbegin
    swap
    · cases hbegin
    rename_i hlisted
    cases hbegin
    have hnot : ∀ tick rest schedule, p.phase worker = some (tick, rest) →
        ¬Updates rest schedule := by
      intro tick' rest schedule hphase'
      cases hphase.symm.trans hphase'
    exact h.quiet (fun _ h => h) hnot (due_of_listed h.store hlisted.1 hlisted.2.1 hcareful)
      (.loop [] (List.nil_append _).symm fun _ hmem => absurd hmem List.not_mem_nil)
      (not_updates_loop _ _ _)
  | @call worker tick op next how hphase =>
    cases op with
    | getInstance schedule => exact h.getInstance hphase how
    | createJob schedule => exact h.createJob hphase hcareful
    | updateSchedule schedule lastRunAt lastJobId nextRunAt => exact h.updateSchedule hphase hcareful
  | done hphase =>
    refine h.leave fun tick rest schedule hphase' => ?_
    cases hphase.symm.trans hphase'
    rintro ⟨_, _, _, _, heq⟩
    cases heq
  | raised hphase =>
    refine h.leave fun tick rest schedule hphase' => ?_
    cases hphase.symm.trans hphase'
    exact not_updates_raise _
  | crash worker => exact h.leave hcareful

/-- The claim's law, in every state that a run with careful steps reaches. -/
theorem oneJobPerDue_of_careful {events : List (Event Id)}
    (hruns : Transition.Runs (Pool.Step site) Careful (Pool.idle .initial) events p) :
    OneJobPerDue p := by
  have hsound : Sound p := hruns.invariant sound_initial fun _ _ _ h => h.step
  exact hsound.oneJobPerDue

end Invariant

section Samples

open Transition

/-- A schedule by a cron expression. -/
def sampleScheduleRequest : ScheduleRequest where
  connectorInstanceId := "instance"
  frequency := "cron"
  intervalCount := 1
  cronExpression := some "0 * * * *"

/-- The row of the schedule, when it is created at the first instant. -/
def sampleSchedule : Schedule where
  id := "schedule"
  connectorInstanceId := "instance"
  frequency := "cron"
  cronExpression := some "0 * * * *"
  intervalCount := 1
  nextRunAt := some minute
  lastRunAt := none
  lastJobId := none
  isActive := true

def sampleStore : Store := ⟨["instance"], [sampleSchedule], [], [], []⟩

def sampleTick : Tick := ⟨minute, [sampleSchedule], minute⟩

def sampleListed : Schedulers Unit :=
  (Pool.idle sampleStore : Schedulers Unit).put () sampleStore
    (some (sampleTick, site.program sampleTick))

theorem runs_sampleListed {meets : Schedulers Unit → Event Unit → Prop}
    (hmeets : ∀ p e, Careful p e → meets p e) :
    Runs (Pool.Step site) meets (Pool.idle .initial)
      [.outside (.addInstance "instance".toList),
        .outside (.createSchedule sampleScheduleRequest "schedule".toList 0),
        .begin_ () sampleTick] sampleListed := by
  have hcreate : Careful (Pool.idle ⟨["instance".toList], [], [], [], []⟩ : Schedulers Unit)
      (.outside (.createSchedule sampleScheduleRequest "schedule".toList 0)) := by
    intro hneg
    cases hneg
  have hbegin : Pool.Step site (Pool.idle sampleStore : Schedulers Unit) (.begin_ () sampleTick)
      sampleListed := .begin_ rfl rfl
  exact .cons (.outside _ _) (hmeets _ _ trivial) (.cons (.outside _ _) (hmeets _ _ hcreate)
    (.one hbegin (hmeets _ _ le_rfl)))

/-- The pool at a later point of the tick. -/
def sampleAt (s : Store) (rest : Work Unit) : Schedulers Unit :=
  sampleListed.put () s (some (sampleTick, rest))

/-- The tables after the creation of the job. -/
def sampleTriggered : Store :=
  { sampleStore with jobs := [⟨"job", "instance", sampleSchedule.occurrence⟩] }

theorem put_sampleAt (s s' : Store) (rest rest' : Work Unit) :
    (sampleAt s rest).put () s' (some (sampleTick, rest')) = sampleAt s' rest' := by
  rw [sampleAt, sampleAt, Pool.put, Pool.put]
  congr 1

/-- Every call is served. -/
theorem oneJobPerDue_of_careful_sample :
    ∃ (events : List (Event Unit)) (p : Schedulers Unit),
      Runs (Pool.Step site) Careful (Pool.idle .initial) events p ∧
        p.shared.triggered = [sampleSchedule.occurrence] ∧ p.shared.advances.length = 1 ∧
        OneJobPerDue p := by
  let job : Text := "job"
  let creating : Work Unit := .call (.createJob sampleSchedule) (afterJob minute sampleSchedule [] [])
  let updating : Work Unit :=
    .call (.updateSchedule sampleSchedule minute job (2 * minute)) (afterUpdate minute [] [job])
  have hlisted : sampleListed.phase () = some (sampleTick, .call (.getInstance sampleSchedule)
      (afterInstance minute sampleSchedule [] [])) :=
    congrArg (fun rest => some (sampleTick, rest)) loop_cons
  have hget : Pool.Step site sampleListed (.call () (.getInstance sampleSchedule) none)
      (sampleAt sampleStore creating) := .call_to site none hlisted rfl
  have hcreate : Pool.Step site (sampleAt sampleStore creating)
      (.call () (.createJob sampleSchedule) (job, .served ()))
      (sampleAt sampleTriggered updating) := by
    have hphase : (sampleAt sampleStore creating).phase () = some (sampleTick, creating) := rfl
    exact .call_to site (job, .served ()) hphase (put_sampleAt _ _ _ _).symm
  have hcareful : Careful (sampleAt sampleStore creating)
      (.call () (.createJob sampleSchedule) (job, .served ())) := by
    refine fun _ => ⟨⟨(), rfl⟩, ⟨sampleSchedule, rfl, rfl⟩, ?_, ?_⟩
    · intro other tick rest schedule hne
      exact absurd rfl hne
    · intro tick rest hphase
      cases hphase
      decide
  let served : Pool.Fate PyError Unit := .served ()
  have hupdating : (sampleAt sampleTriggered updating).phase () = some (sampleTick, updating) := rfl
  have hupdate := Pool.Step.call_to site served hupdating rfl
  have hruns := (((runs_sampleListed fun _ _ h => h).snoc hget trivial).snoc hcreate hcareful).snoc
    hupdate rfl
  exact ⟨_, _, hruns, rfl, rfl, oneJobPerDue_of_careful hruns⟩

/-- A schedule whose update fails after its job was created. -/
theorem oneJobPerDue_counterexample :
    ∃ (events : List (Event Unit)) (p : Schedulers Unit),
      Runs (Pool.Step site) (fun _ _ => True) (Pool.idle .initial) events p ∧
        p.phase () = none ∧ ¬OneJobPerDue p := by
  let how : (op : Call) → op.How
    | .getInstance _ => none
    | .createJob _ => ("job", .served ())
    | .updateSchedule .. => .refused (.builtin "OperationalError" "connection lost")
  have hlisted : sampleListed.phase () = some (sampleTick, site.program sampleTick) := rfl
  obtain ⟨events, p, hruns, hshared, hphase, _⟩ := Pool.runs_execute site how
    (fun _ _ => True) sampleListed (fun _ _ => trivial) (fun _ => trivial) _ hlisted
  have hstore : p.shared = { sampleStore with
      jobs := [⟨"job", "instance", sampleSchedule.occurrence⟩] } := hshared.trans rfl
  refine ⟨_, p, (runs_sampleListed fun _ _ _ => trivial).append hruns, hphase, fun h => ?_⟩
  have hadvanced := h.advanced sampleSchedule.occurrence (by rw [hstore]; exact List.mem_cons_self)
  rw [hstore] at hadvanced
  rcases hadvanced with hadvanced | ⟨worker, tick, rest, schedule, hbusy, _⟩
  · exact List.not_mem_nil hadvanced
  · rw [hphase] at hbusy
    cases hbusy

end Samples

end Connectors

end DqMadeEasy
