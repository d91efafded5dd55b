import DqMadeEasy.Runs.Schedule
import DqMadeEasy.Runs.StatusMachine

/-!
# The stores behind the requests

A call is served on the runs and the queue. It may also be refused, or be interrupted after it has
had its effect: a lost connection, a failed read after a commit, a cancelled task. Both repositories
are taken through the same laws.
-/

namespace DqMadeEasy

namespace Runs

open Worker

/-- A repository with its runs in a list. -/
structure Listing (Store Time : Type) extends RunRepository Store Time where
  rows : Store → List (Text × Run Time)

def InMemory.listing [PyRuntime] [PyNumerals] [PyDatetime] : Listing InMemory.Store Text :=
  { InMemory.repository with rows := InMemory.Store.runs }

def Postgres.listing [PyRuntime] [PyNumerals] [PyDatetime] : Listing Postgres.Tables Datetime :=
  { Postgres.repository with rows := Postgres.Tables.runs }

/-- The runs and the messages in the queue, each under the key of its list. -/
structure Backend (Store : Type) where
  runs : Store
  queue : List (Text × DispatchPayload)

/-- How a call goes. -/
inductive Fate where
  | served
  | refused (exc : ApiError)
  /-- It has its effect and raises. -/
  | interrupted (exc : ApiError)

/-- What a call meets. -/
structure Circumstances where
  fate : Fate
  moment : Moment
  historyId : Text

def RunQuery.selects {Time : Type} (query : RunQuery) (run : Run Time) : Bool :=
  query.suiteId.all (fun suiteId => run.suiteId.getD [] = suiteId) && run.status = query.status

section Serve

variable {Store Time : Type} [PyNumerals]

/-- `list_runs`, in the order of the rows. The order is not read. -/
def Listing.listRuns (listing : Listing Store Time) (query : RunQuery) (store : Store) :
    Except PyError (List (RunEntity Time)) :=
  ((listing.rows store).filter fun row => query.selects row.2).mapM fun row =>
    buildRunEntity row.1 row.2 []

/-- A method of the repository as a call. -/
def onRuns {α β : Type} (method : Effect Store PyError α) (f : α → β) :
    Effect (Backend Store) ApiError β := Effect.ofState fun s =>
  match method.run s.runs with
  | (.ok a, runs) => (.ok (f a), { s with runs })
  | (.error exc, runs) => (.error (.raised exc), { s with runs })

/-- The effect of a call. -/
def Listing.effect (listing : Listing Store Time) (moment : Moment) (historyId : Text) :
    (call : Call) → Effect (Backend Store) ApiError (Call.Answer Time call)
  | .assertDispatchWorker _ _ => pure ()
  | .assertJoinPairMaterializationWorker _ _ => pure ()
  | .listRuns query => Effect.ofState fun s =>
    (match listing.listRuns query s.runs with
      | .ok runs => .ok runs
      | .error exc => .error (.raised exc), s)
  | .createRun create => onRuns (listing.createRun moment historyId create) fun _ => ()
  | .enqueuePayload _ queueKey payload => Effect.ofState fun s =>
    (.ok (), { s with queue := s.queue ++ [(queueKey, payload)] })
  | .recordRunStatusTransition transition =>
    onRuns (listing.recordRunStatusTransition moment historyId transition) fun _ => ()

/-- A call in its circumstances. -/
def Listing.serve (listing : Listing Store Time) (circumstances : Circumstances) (call : Call) :
    Effect (Backend Store) ApiError (Call.Answer Time call) :=
  let effect := listing.effect circumstances.moment circumstances.historyId call
  match circumstances.fate with
  | .served => effect
  | .refused exc => Effect.raise exc
  | .interrupted exc => Effect.ofState fun s => (.error exc, (effect.run s).2)

variable {α β : Type} {s s' : Backend Store}

omit [PyNumerals] in
theorem snd_onRuns (method : Effect Store PyError α) (f : α → β) (s : Backend Store) :
    ((onRuns method f).run s).2 = { s with runs := (method.run s.runs).2 } := by
  rw [onRuns, Effect.run_ofState]
  split <;> (rename_i h; rw [h])

omit [PyNumerals] in
theorem ok_of_onRuns {method : Effect Store PyError α} {f : α → β} {b : β}
    (h : (onRuns method f).run s = (.ok b, s')) :
    ∃ a, (method.run s.runs).1 = .ok a := by
  rw [onRuns, Effect.run_ofState] at h
  split at h
  · rename_i a runs hrun
    exact ⟨a, by rw [hrun]⟩
  · cases (Prod.mk.inj h).1

omit [PyNumerals] in
theorem error_of_onRuns {method : Effect Store PyError α} {f : α → β} {e : ApiError}
    (h : (onRuns method f).run s = (.error e, s')) :
    ∃ exc, (method.run s.runs).1 = .error exc := by
  rw [onRuns, Effect.run_ofState] at h
  split at h
  · cases (Prod.mk.inj h).1
  · rename_i exc runs hrun
    exact ⟨exc, by rw [hrun]⟩

theorem Listing.snd_effect_createRun (listing : Listing Store Time) (moment : Moment)
    (historyId : Text) (create : RunCreate) (s : Backend Store) :
    ((listing.effect moment historyId (.createRun create)).run s).2 =
      { s with runs := ((listing.createRun moment historyId create).run s.runs).2 } :=
  snd_onRuns _ _ s

theorem Listing.snd_effect_recordRunStatusTransition (listing : Listing Store Time)
    (moment : Moment) (historyId : Text) (transition : StatusTransition) (s : Backend Store) :
    ((listing.effect moment historyId (.recordRunStatusTransition transition)).run s).2 =
      { s with
        runs := ((listing.recordRunStatusTransition moment historyId transition).run s.runs).2 } :=
  snd_onRuns _ _ s

theorem Listing.snd_serve (listing : Listing Store Time) (circumstances : Circumstances)
    (call : Call) (s : Backend Store) :
    ((listing.serve circumstances call).run s).2 = s ∨
      ((listing.serve circumstances call).run s).2 =
        ((listing.effect circumstances.moment circumstances.historyId call).run s).2 := by
  rw [serve]
  cases circumstances.fate with
  | served => exact .inr rfl
  | refused exc => exact .inl rfl
  | interrupted exc => exact .inr rfl

/-- A call that returns returned its effect's value. -/
theorem Listing.ok_of_serve {listing : Listing Store Time} {circumstances : Circumstances}
    {call : Call} {a : Call.Answer Time call}
    (h : (listing.serve circumstances call).run s = (.ok a, s')) :
    (listing.effect circumstances.moment circumstances.historyId call).run s = (.ok a, s') := by
  rw [serve] at h
  cases hfate : circumstances.fate with
  | served =>
    rw [hfate] at h
    exact h
  | refused exc =>
    rw [hfate] at h
    cases (Prod.mk.inj h).1
  | interrupted exc =>
    rw [hfate] at h
    cases (Prod.mk.inj h).1

end Serve

/-! ### Laws -/

/-- Two runs of the same object. -/
structure SameObject {Time Time' : Type} (run : RunContent Time) (run' : RunContent Time') :
    Prop where
  suiteId : run.suiteId = run'.suiteId
  suiteVersion : run.suiteVersion = run'.suiteVersion
  handoffPayload : run.handoffPayload = run'.handoffPayload

section Laws

variable {Store Time : Type}

/-- What the requests rely on of a repository. -/
structure Listing.Lawful (listing : Listing Store Time) : Prop where
  rows : ∀ {store id run}, listing.find? store id = some run → (id, run) ∈ listing.rows store
  empty : ∀ id, listing.find? listing.empty id = none
  create : ∀ moment historyId (create : RunCreate) store,
    let outcome := (listing.createRun moment historyId create).run store
    (∃ exc, outcome = (.error exc, store)) ∨
      listing.find? store create.runId = none ∧ ∃ run : Run Time,
        SameObject run.toRunContent create.toRunContent ∧ run.status = create.status ∧
        Writes listing.toRunRepository store outcome.2 create.runId run
          [create.historyEntry historyId (listing.stamp moment)] ∧
        (create.executionProgress = none → ∃ entity, outcome.1 = .ok entity)
  transition : ∀ moment historyId (transition : StatusTransition) store,
    let after := ((listing.recordRunStatusTransition moment historyId transition).run store).2
    after = store ∧ (transition.startedAt = none → transition.completedAt = none →
      listing.find? store transition.runId = none) ∨
    ∃ run run' : Run Time, ∃ added, listing.find? store transition.runId = some run ∧
      SameObject run'.toRunContent run.toRunContent ∧ run'.status = transition.newStatus ∧
      Writes listing.toRunRepository store after transition.runId run' added

end Laws

theorem buildRunEntity_of_no_progress [PyNumerals] {Time : Type} {runId : Text}
    {run : Run Time} {history : List StatusHistory} (h : run.executionProgress = none) :
    buildRunEntity runId run history = .ok { run with id := runId, statusHistory := history } := by
  rw [buildRunEntity, h]
  rfl

namespace InMemory

variable [PyRuntime] [PyNumerals] [PyDatetime]

omit [PyDatetime] in
theorem read_back {store : Store} {runId : Text} {run : Run Text}
    (hfind : store.find? runId = some run) (hprogress : run.executionProgress = none) :
    ∃ entity, store.persisted runId = .ok entity := by
  rw [Store.persisted, Store.getRun, hfind]
  dsimp only
  rw [buildRunEntity_of_no_progress hprogress]
  exact ⟨_, rfl⟩

theorem listing_lawful : listing.Lawful := by
  constructor
  · exact fun h => Assoc.mem_of_find? h
  · exact fun _ => rfl
  · intro moment historyId create store outcome
    have houtcome : outcome = (createRun moment historyId create).run store := rfl
    rw [createRun, Effect.run_ofState] at houtcome
    cases hfind : store.find? create.runId with
    | some run =>
      left
      rw [hfind] at houtcome
      exact ⟨_, houtcome⟩
    | none =>
      right
      rw [hfind] at houtcome
      dsimp only at houtcome
      rw [houtcome]
      refine ⟨hfind, { create.toRunContent with
            metrics := createdMetrics create
            createdAt := moment.now
            updatedAt := moment.now }, ⟨rfl, rfl, rfl⟩, rfl, ?_, ?_⟩
      · apply writes_put_append
        intro entry h
        rw [List.mem_singleton.mp h]
        rfl
      · intro hprogress
        exact read_back (Store.find?_put_self store create.runId _) hprogress
  · intro moment historyId transition store after
    have hafter : after = ((recordRunStatusTransition moment historyId transition).run store).2 :=
      rfl
    rw [recordRunStatusTransition, Effect.run_ofState] at hafter
    cases hfind : store.find? transition.runId with
    | none =>
      left
      rw [hfind] at hafter
      exact ⟨hafter, fun _ _ => hfind⟩
    | some run =>
      right
      rw [hfind] at hafter
      dsimp only at hafter
      rw [hafter]
      split
      · exact ⟨run, transitioned moment.now transition run, [], hfind, ⟨rfl, rfl, rfl⟩, rfl,
          writes_put store _ _⟩
      · refine ⟨run, transitioned moment.now transition run,
          [transition.historyEntry historyId run.status moment.now], hfind, ⟨rfl, rfl, rfl⟩, rfl,
          writes_put_append store _ ?_⟩
        intro entry h
        rw [List.mem_singleton.mp h]
        rfl

end InMemory

namespace Postgres

variable [PyRuntime] [PyNumerals] [PyDatetime]

omit [PyRuntime] [PyDatetime] in
theorem read_back {tables : Tables} {runId : Text} {run : Run Datetime}
    (hfind : tables.find? runId = some run) (hprogress : run.executionProgress = none) :
    ∃ entity, tables.persisted runId = .ok entity := by
  rw [Tables.persisted, Tables.getRun, hfind]
  dsimp only
  rw [buildRunEntity_of_no_progress hprogress]
  exact ⟨_, rfl⟩

omit [PyRuntime] [PyNumerals] in
theorem object_of_createdRow {now : ℕ} {create : RunCreate} {row : Run Datetime}
    (h : createdRow now create = .ok row) :
    SameObject row.toRunContent create.toRunContent ∧
      row.executionProgress = create.executionProgress := by
  obtain ⟨_, _, h⟩ := ok_of_bind h
  obtain ⟨_, _, h⟩ := ok_of_bind h
  obtain ⟨_, _, h⟩ := ok_of_bind h
  cases h
  exact ⟨⟨rfl, rfl, rfl⟩, rfl⟩

omit [PyRuntime] [PyNumerals] in
theorem object_of_transitioned {now : ℕ} {transition : StatusTransition} {run row : Run Datetime}
    (h : transitioned now transition run = .ok row) :
    SameObject row.toRunContent run.toRunContent := by
  obtain ⟨_, _, h⟩ := ok_of_bind h
  obtain ⟨_, _, h⟩ := ok_of_bind h
  cases h
  exact ⟨rfl, rfl, rfl⟩

omit [PyRuntime] [PyNumerals] in
theorem exists_transitioned (now : ℕ) {transition : StatusTransition} (run : Run Datetime)
    (hstarted : transition.startedAt = none) (hcompleted : transition.completedAt = none) :
    ∃ row, transitioned now transition run = .ok row := by
  rw [transitioned, stamped, stamped, hstarted, hcompleted]
  exact ⟨_, rfl⟩

theorem listing_lawful : listing.Lawful := by
  constructor
  · exact fun h => Assoc.mem_of_find? h
  · exact fun _ => rfl
  · intro moment historyId create tables outcome
    have houtcome : outcome = (createRun moment historyId create).run tables := rfl
    rw [createRun, Effect.run_ofState] at houtcome
    cases hfind : tables.find? create.runId with
    | some run =>
      left
      rw [hfind] at houtcome
      exact ⟨_, houtcome⟩
    | none =>
      cases hrow : createdRow moment.now create with
      | error exc =>
        left
        rw [hfind, hrow] at houtcome
        exact ⟨_, houtcome⟩
      | ok row =>
        rw [hfind, hrow] at houtcome
        dsimp only at houtcome
        split at houtcome
        · left
          exact ⟨_, houtcome⟩
        · right
          obtain ⟨hobject, hprogress⟩ := object_of_createdRow hrow
          rw [houtcome]
          refine ⟨hfind, row, hobject, (of_createdRow hrow).1, ?_, ?_⟩
          · apply writes_put_append
            intro entry h
            rw [List.mem_singleton.mp h]
            rfl
          · intro hnone
            exact read_back (Tables.find?_put_self tables create.runId row) (hprogress.trans hnone)
  · intro moment historyId transition tables after
    have hafter : after = ((recordRunStatusTransition moment historyId transition).run tables).2 :=
      rfl
    rw [recordRunStatusTransition, Effect.run_ofState] at hafter
    cases hfind : tables.find? transition.runId with
    | none =>
      left
      rw [hfind] at hafter
      exact ⟨hafter, fun _ _ => hfind⟩
    | some run =>
      rw [hfind] at hafter
      dsimp only at hafter
      cases hrow : transitioned moment.now transition run with
      | error exc =>
        left
        rw [hrow] at hafter
        refine ⟨hafter, fun hstarted hcompleted => ?_⟩
        obtain ⟨row, h⟩ := exists_transitioned moment.now run hstarted hcompleted
        rw [h] at hrow
        cases hrow
      | ok row =>
        right
        rw [hrow] at hafter
        dsimp only at hafter
        rw [hafter]
        split
        · exact ⟨run, row, [], hfind, object_of_transitioned hrow, (of_transitioned hrow).1,
            writes_put tables _ _⟩
        · refine ⟨run, row, [transition.historyEntry historyId run.status moment.transaction],
            hfind, object_of_transitioned hrow, (of_transitioned hrow).1,
            writes_put_append tables _ ?_⟩
          intro entry h
          rw [List.mem_singleton.mp h]
          rfl

end Postgres

end Runs

end DqMadeEasy
