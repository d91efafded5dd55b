import DqMadeEasy.Runs.Run

/-!
# The Postgres repository of runs

Rows of runs and rows of the history, which the database stamps with the start of the transaction. A
method writes in one transaction, which an exception rolls back, and then reads the run in another.
The rows of a history are ordered by their stamps, in any order where these are equal.
-/

namespace DqMadeEasy

namespace Runs

namespace Postgres

open Worker

/-- The rows of `gx_execution_runs` and of `gx_execution_run_status_history`. -/
structure Tables where
  runs : List (Text × Run Datetime)
  history : List StatusHistory

namespace Tables

/-- `session.get(GxExecutionRunRow, run_id)`. -/
def find? (tables : Tables) (runId : Text) : Option (Run Datetime) :=
  Assoc.find? tables.runs runId

def put (tables : Tables) (runId : Text) (run : Run Datetime) : Tables :=
  { tables with runs := Assoc.update runId (fun _ => run) tables.runs }

def append (tables : Tables) (entries : List StatusHistory) : Tables :=
  { tables with history := tables.history ++ entries }

def entries (tables : Tables) (runId : Text) : List StatusHistory :=
  tables.history.filter fun entry => entry.runId = runId

/-- What `order_by(changed_at)` may return of the history of a run. -/
def Lists (tables : Tables) (runId : Text) (rows : List StatusHistory) : Prop :=
  rows.Perm (tables.entries runId) ∧ rows.Pairwise fun a b => a.changedAt ≤ b.changedAt

/-- A row that violates `uq_gx_execution_runs_correlation_suite`. Missing values are distinct. -/
def conflicting (tables : Tables) (create : RunCreate) : Bool :=
  create.suiteId.isSome && create.suiteVersion.isSome &&
    tables.runs.any fun row => row.2.correlationId == create.correlationId &&
      row.2.suiteId == create.suiteId && row.2.suiteVersion == create.suiteVersion

@[simp] theorem find?_put_self (tables : Tables) (runId : Text) (run : Run Datetime) :
    (tables.put runId run).find? runId = some run := by
  rw [find?, put, Assoc.find?_update, if_pos rfl]

theorem find?_put_of_ne (tables : Tables) {runId other : Text} (run : Run Datetime)
    (h : other ≠ runId) : (tables.put runId run).find? other = tables.find? other := by
  rw [find?, put, Assoc.find?_update, if_neg (Ne.symm h), find?]

@[simp] theorem find?_append (tables : Tables) (entries : List StatusHistory) (runId : Text) :
    (tables.append entries).find? runId = tables.find? runId := rfl

@[simp] theorem entries_put (tables : Tables) (runId : Text) (run : Run Datetime) (other : Text) :
    (tables.put runId run).entries other = tables.entries other := rfl

theorem entries_append (tables : Tables) (entries : List StatusHistory) (runId : Text) :
    (tables.append entries).entries runId =
      tables.entries runId ++ entries.filter fun entry => entry.runId = runId := by
  rw [Tables.entries, append, List.filter_append, Tables.entries]

end Tables

section Methods

variable [PyRuntime] [PyNumerals] [PyDatetime]

omit [PyRuntime] [PyNumerals] in
def parseIsoDatetime (value : Option Text) : Except PyError (Option Datetime) :=
  match value with
  | none => .ok none
  | some t =>
    if Text.strip t = [] then .ok none
    else (Datetime.ofText (Text.strip t)).elim
      (.error (.builtin "ValueError" "Invalid isoformat string")) fun d => .ok (some d)

omit [PyRuntime] [PyNumerals] in
/-- A time of a run after a transition: the one given, even where it is blank, else the stored one,
and the time of the call if the status needs one and there is none. -/
def stamped (due : Bool) (given : Option Text) (stored : Option Datetime) (now : ℕ) :
    Except PyError (Option Datetime) := do
  let value ← if given.isNone then .ok stored else parseIsoDatetime given
  return if due && value.isNone then some (Datetime.now now) else value

omit [PyRuntime] [PyNumerals] in
/-- The row after a transition. -/
def transitioned (now : ℕ) (transition : StatusTransition) (run : Run Datetime) :
    Except PyError (Run Datetime) := do
  let startedAt ←
    stamped (transition.newStatus == .running) transition.startedAt run.startedAt now
  let completedAt ←
    stamped transition.newStatus.terminal transition.completedAt run.completedAt now
  return { run.merge transition with startedAt, completedAt, updatedAt := now }

omit [PyRuntime] [PyNumerals] in
/-- The row of a new run. -/
def createdRow (now : ℕ) (create : RunCreate) : Except PyError (Run Datetime) := do
  let submittedAt ← parseIsoDatetime (some create.submittedAt)
  let startedAt ← parseIsoDatetime create.startedAt
  let completedAt ← parseIsoDatetime create.completedAt
  return { create.toRunContent with
    submittedAt := submittedAt.getD (Datetime.now now)
    startedAt, completedAt
    metrics := createdMetrics create
    createdAt := now
    updatedAt := now }

omit [PyDatetime] in
/-- `get_run`, with the history as one of the lists that the database may return. -/
def Tables.getRun (tables : Tables) (runId : Text) :
    Except PyError (Option (RunEntity Datetime)) :=
  match tables.find? runId with
  | none => .ok none
  | some run => (buildRunEntity runId run
      (Sorted.sortOn StatusHistory.changedAt (tables.entries runId))).map some

omit [PyDatetime] in
/-- The run that was just committed, read back. -/
def Tables.persisted (tables : Tables) (runId : Text) : Except PyError (RunEntity Datetime) :=
  (tables.getRun runId).bind fun entity? => entity?.elim
    (.error (.builtin "RuntimeError" "GX execution run was not persisted")) .ok

def createRun (moment : Moment) (historyId : Text) (create : RunCreate) :
    Effect Tables PyError (RunEntity Datetime) := Effect.ofState fun tables =>
  match tables.find? create.runId, createdRow moment.now create with
  | some _, _ => (.error (.builtin "ValueError" "GX execution run already exists"), tables)
  | none, .error e => (.error e, tables)
  | none, .ok row =>
    if tables.conflicting create then
      (.error (.mk .exception "sqlalchemy.exc" "IntegrityError" [] none none), tables)
    else
      let committed := (tables.put create.runId row).append
        [create.historyEntry historyId moment.transaction]
      (committed.persisted create.runId, committed)

def recordRunStatusTransition (moment : Moment) (historyId : Text) (transition : StatusTransition) :
    Effect Tables PyError (RunEntity Datetime) := Effect.ofState fun tables =>
  match tables.find? transition.runId with
  | none => (.error (.builtin "ValueError" "GX execution run not found"), tables)
  | some run =>
    match transitioned moment.now transition run with
    | .error e => (.error e, tables)
    | .ok row =>
      let changed := tables.put transition.runId row
      let committed :=
        if run.status = transition.newStatus then changed
        else changed.append
          [transition.historyEntry historyId run.status moment.transaction]
      (committed.persisted transition.runId, committed)

omit [PyDatetime] in
def updateRunComments (moment : Moment) (runId : Text) (comments : Option Text) :
    Effect Tables PyError (Option (RunEntity Datetime)) := Effect.ofState fun tables =>
  match tables.find? runId with
  | none => (.ok none, tables)
  | some run =>
    let stripped := Text.strip (comments.getD [])
    let committed := tables.put runId
      { run with
        comments := if stripped = [] then none else some stripped
        updatedAt := moment.now }
    (committed.getRun runId, committed)

end Methods

/-- The repository. -/
def repository [PyRuntime] [PyNumerals] [PyDatetime] : RunRepository Tables Datetime where
  empty := ⟨[], []⟩
  createRun := createRun
  recordRunStatusTransition := recordRunStatusTransition
  updateRunComments := updateRunComments
  find? := Tables.find?
  text := PyDatetime.isoformat
  Lists := Tables.Lists
  entries := Tables.entries
  stamp := Moment.transaction
  Ordered := (· < ·)
  records moment transition tables := (tables.find? transition.runId).any fun run =>
    (transitioned moment.now transition run).isOk

end Postgres

end Runs

end DqMadeEasy
