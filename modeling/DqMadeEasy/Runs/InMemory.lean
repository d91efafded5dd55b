import DqMadeEasy.Runs.Run

/-!
# The in-memory repository of runs

A map of runs and one list of history entries. A method changes the stored run in place and then
reads it back, so it may raise after it has written.
-/

namespace DqMadeEasy

namespace Runs

namespace InMemory

open Worker

/-- The state of `InMemoryGxExecutionRunRepository`. -/
structure Store where
  runs : List (Text × Run Text)
  history : List StatusHistory

/-- `value or now_iso`. -/
def orNow [PyDatetime] (value : Option Text) (now : ℕ) : Text :=
  match value with
  | some (c :: cs) => c :: cs
  | _ => Datetime.nowIso now

/-- A time of a run after a transition: the one given, else the stored one, and the time of the call
if the status needs one and there is none. -/
def stamped [PyDatetime] (due : Bool) (given stored : Option Text) (now : ℕ) : Option Text :=
  if due && !truthyText (given.or stored) then some (orNow given now) else given.or stored

/-- The stored run after a transition. -/
def transitioned [PyDatetime] (now : ℕ) (transition : StatusTransition) (run : Run Text) :
    Run Text :=
  { run.merge transition with
    startedAt := stamped (transition.newStatus == .running) transition.startedAt run.startedAt now
    completedAt := stamped transition.newStatus.terminal transition.completedAt run.completedAt now
    updatedAt := now }

namespace Store

/-- `self._runs.get(run_id)`. -/
def find? (store : Store) (runId : Text) : Option (Run Text) := Assoc.find? store.runs runId

def put (store : Store) (runId : Text) (run : Run Text) : Store :=
  { store with runs := Assoc.update runId (fun _ => run) store.runs }

def append (store : Store) (entries : List StatusHistory) : Store :=
  { store with history := store.history ++ entries }

def entries (store : Store) (runId : Text) : List StatusHistory :=
  store.history.filter fun entry => entry.runId = runId

def listRunStatusHistory (store : Store) (runId : Text) : List StatusHistory :=
  Sorted.sortOn StatusHistory.changedAt (store.entries runId)

@[simp] theorem find?_put_self (store : Store) (runId : Text) (run : Run Text) :
    (store.put runId run).find? runId = some run := by
  rw [find?, put, Assoc.find?_update, if_pos rfl]

theorem find?_put_of_ne (store : Store) {runId other : Text} (run : Run Text)
    (h : other ≠ runId) : (store.put runId run).find? other = store.find? other := by
  rw [find?, put, Assoc.find?_update, if_neg (Ne.symm h), find?]

@[simp] theorem find?_append (store : Store) (entries : List StatusHistory) (runId : Text) :
    (store.append entries).find? runId = store.find? runId := rfl

@[simp] theorem entries_put (store : Store) (runId : Text) (run : Run Text) (other : Text) :
    (store.put runId run).entries other = store.entries other := rfl

theorem entries_append (store : Store) (entries : List StatusHistory) (runId : Text) :
    (store.append entries).entries runId =
      store.entries runId ++ entries.filter fun entry => entry.runId = runId := by
  rw [Store.entries, append, List.filter_append, Store.entries]

end Store

section Methods

variable [PyNumerals] [PyDatetime]

omit [PyDatetime] in
def Store.getRun [PyRuntime] (store : Store) (runId : Text) :
    Except PyError (Option (RunEntity Text)) :=
  match store.find? runId with
  | none => .ok none
  | some run => (buildRunEntity runId run (store.listRunStatusHistory runId)).map some

variable [PyRuntime]

omit [PyDatetime] in
/-- The run that was just written, read back. -/
def Store.persisted (store : Store) (runId : Text) : Except PyError (RunEntity Text) :=
  (store.getRun runId).bind fun entity? => entity?.elim
    (.error (.builtin "RuntimeError" "GX execution run was not persisted")) .ok

omit [PyDatetime] in
def createRun (moment : Moment) (historyId : Text) (create : RunCreate) :
    Effect Store PyError (RunEntity Text) := Effect.ofState fun store =>
  match store.find? create.runId with
  | some _ => (.error (.builtin "ValueError" "GX execution run already exists"), store)
  | none =>
    let run : Run Text :=
      { create.toRunContent with
        metrics := createdMetrics create
        createdAt := moment.now
        updatedAt := moment.now }
    let written := (store.put create.runId run).append [create.historyEntry historyId moment.now]
    (written.persisted create.runId, written)

def recordRunStatusTransition (moment : Moment) (historyId : Text) (transition : StatusTransition) :
    Effect Store PyError (RunEntity Text) := Effect.ofState fun store =>
  match store.find? transition.runId with
  | none => (.error (.builtin "ValueError" "GX execution run not found"), store)
  | some run =>
    let changed := store.put transition.runId (transitioned moment.now transition run)
    let written :=
      if run.status = transition.newStatus then changed
      else changed.append [transition.historyEntry historyId run.status moment.now]
    (written.persisted transition.runId, written)

omit [PyDatetime] in
def updateRunComments (moment : Moment) (runId : Text) (comments : Option Text) :
    Effect Store PyError (Option (RunEntity Text)) := Effect.ofState fun store =>
  match store.find? runId with
  | none => (.ok none, store)
  | some run =>
    let stripped := Text.strip (comments.getD [])
    let written := store.put runId
      { run with
        comments := if stripped = [] then none else some stripped
        updatedAt := moment.now }
    (written.getRun runId, written)

end Methods

/-- The repository. -/
def repository [PyRuntime] [PyNumerals] [PyDatetime] : RunRepository Store Text where
  empty := ⟨[], []⟩
  createRun := createRun
  recordRunStatusTransition := recordRunStatusTransition
  updateRunComments := updateRunComments
  find? := Store.find?
  text := id
  Lists store runId rows := rows = store.listRunStatusHistory runId
  entries := Store.entries
  stamp := Moment.now
  Ordered := (· ≤ ·)
  records _ transition store := (store.find? transition.runId).isSome

end InMemory

end Runs

end DqMadeEasy
