import DqMadeEasy.Runs.InMemory
import DqMadeEasy.Runs.Report

/-!
# Redelivered reports

A terminal report that is applied a second time writes the time of the update again and nothing
else. The second transition finds the status and the times that the first one left, and the event of
the second application has the id of the first, so that the store keeps what it has.
-/

namespace DqMadeEasy

namespace Runs

open Artifacts Worker

section Event

variable [PyRuntime] [PyNumerals] [PyDatetime]

def reportEventId (run : RunEntity Text) (body : ReportBody) : Text :=
  run.correlationId ++ ':' :: run.id ++ ':' :: eventStatus run body

theorem buildDqResultEvent_ok {now : ℕ} {run : RunEntity Text} {suite : Option GxArtifactEnvelope}
    {rule : Option RuleEntity} {body : ReportBody} {event : DqResultEvent}
    (h : buildDqResultEvent now run suite rule body = .ok event) :
    (∃ items, resultItems run.resultSummary = .ok items) ∧
      (∃ duration, durationMs run.startedAt (some (eventEmittedAt now run body)) = .ok duration) ∧
      EventStore.eventId event = reportEventId run body := by
  rw [buildDqResultEvent] at h
  obtain ⟨items, hitems, h⟩ := ok_of_bind h
  obtain ⟨duration, hduration, h⟩ := ok_of_bind h
  cases h
  exact ⟨⟨items, hitems⟩, ⟨duration, hduration⟩, rfl⟩

theorem exists_buildDqResultEvent {now : ℕ} {run : RunEntity Text} {body : ReportBody}
    {items : List (Option Bool)} {duration : Option ℤ}
    (hitems : resultItems run.resultSummary = .ok items)
    (hduration : durationMs run.startedAt (some (eventEmittedAt now run body)) = .ok duration)
    (suite : Option GxArtifactEnvelope) (rule : Option RuleEntity) :
    ∃ event, buildDqResultEvent now run suite rule body = .ok event := by
  rw [buildDqResultEvent, hitems, ok_bind, hduration]
  exact ⟨_, rfl⟩

omit [PyRuntime] [PyNumerals] in
@[simp] theorem nonBlank_nowIso (reading : ℕ) :
    nonBlank (Datetime.nowIso reading) = some (Datetime.nowIso reading) := by
  rw [nonBlank, Datetime.strip_nowIso, if_neg (Datetime.nowIso_ne_nil _)]

omit [PyRuntime] [PyNumerals] in
theorem eventEmittedAt_eq (now : ℕ) (run : RunEntity Text) (body : ReportBody) :
    eventEmittedAt now run body =
      (firstText [body.completedAt, run.completedAt]).getD (Datetime.nowIso run.updatedAt) := by
  rw [eventEmittedAt, firstText, firstText]
  cases hbody : body.completedAt.bind nonBlank with
  | some t => simp [hbody]
  | none =>
    cases hrun : run.completedAt.bind nonBlank with
    | some t => simp [hbody, hrun]
    | none => simp [hbody, hrun]

omit [PyRuntime] [PyNumerals] in
theorem parseDatetime_nowIso (reading : ℕ) :
    parseDatetime (some (Datetime.nowIso reading)) = some (Datetime.now reading) := by
  rw [parseDatetime, Option.bind_some, nonBlank_nowIso, Option.bind_some, Datetime.ofText_nowIso]

omit [PyNumerals] in
/-- Whether the duration up to a reading of the clock can be computed does not depend on the
reading. -/
theorem durationMs_nowIso {startedAt : Option Text} {reading : ℕ} {duration : Option ℤ}
    (h : durationMs startedAt (some (Datetime.nowIso reading)) = .ok duration) (reading' : ℕ) :
    ∃ duration', durationMs startedAt (some (Datetime.nowIso reading')) = .ok duration' := by
  rw [durationMs, parseDatetime_nowIso] at h
  rw [durationMs, parseDatetime_nowIso]
  cases hstart : parseDatetime startedAt with
  | none => exact ⟨none, rfl⟩
  | some start =>
    rw [hstart] at h
    dsimp only at h ⊢
    split at h
    · rename_i haware
      rw [if_pos (show start.aware = (Datetime.now reading').aware from haware)]
      exact ⟨_, rfl⟩
    · cases h

/-- The run has the content of another one. Its times of creation and of update may differ. -/
structure SameContent {Time : Type} (run run' : RunEntity Time) : Prop where
  content : run'.toRunContent = run.toRunContent
  id : run'.id = run.id

variable {run run' : RunEntity Text} {now now' : ℕ} {body : ReportBody} {event : DqResultEvent}

/-- A run that was only updated again yields an event where it did before, with the same id. -/
theorem buildDqResultEvent_touched (hsame : SameContent run run')
    {suite : Option GxArtifactEnvelope} {rule : Option RuleEntity}
    (h : buildDqResultEvent now' run' suite rule body = .ok event) :
    ∃ before, buildDqResultEvent now run suite rule body = .ok before ∧
      EventStore.eventId before = EventStore.eventId event := by
  obtain ⟨⟨items, hitems⟩, ⟨duration, hduration⟩, hid⟩ := buildDqResultEvent_ok h
  rw [hsame.content] at hitems
  rw [eventEmittedAt_eq, hsame.content] at hduration
  have hbefore : ∃ duration, durationMs run.startedAt (some (eventEmittedAt now run body)) =
      .ok duration := by
    rw [eventEmittedAt_eq]
    cases htext : firstText [body.completedAt, run.completedAt] with
    | some t =>
      rw [htext] at hduration
      exact ⟨duration, hduration⟩
    | none =>
      rw [htext] at hduration
      exact durationMs_nowIso hduration _
  obtain ⟨duration', hduration'⟩ := hbefore
  obtain ⟨before, hbuilt⟩ := exists_buildDqResultEvent hitems hduration' suite rule
  refine ⟨before, hbuilt, ?_⟩
  rw [(buildDqResultEvent_ok hbuilt).2.2, hid, reportEventId, reportEventId, eventStatus,
    eventStatus, hsame.content, hsame.id]

theorem buildReportEvent_touched {lookups : Lookups} (hsame : SameContent run run')
    (h : buildReportEvent lookups now' run' body = .ok event) :
    ∃ before, buildReportEvent lookups now run body = .ok before ∧
      EventStore.eventId before = EventStore.eventId event := by
  obtain ⟨suite, hsuite, h⟩ := ok_of_bind h
  obtain ⟨rule, hrule, h⟩ := ok_of_bind h
  obtain ⟨before, hbefore, hid⟩ := buildDqResultEvent_touched hsame h
  refine ⟨before, ?_, hid⟩
  rw [Lookups.suiteOf, hsame.content, ← Lookups.suiteOf] at hsuite
  rw [Lookups.ruleOf, hsame.content, ← Lookups.ruleOf] at hrule
  rw [buildReportEvent, hsuite, ok_bind, hrule, ok_bind, hbefore]

/-- A terminal report leaves the store with an event of its id where one can be built, and as it
was elsewhere. -/
theorem persistDqResultEvent_run (lookups : Lookups) (now : ℕ) (run : RunEntity Text)
    (hterminal : body.newStatus.terminal = true) (events : EventStore) :
    ((persistDqResultEvent lookups now run body).run events).2 =
      match buildReportEvent lookups now run body with
      | .error _ => events
      | .ok event => ((EventStore.recordResultEvent event).run events).2 := by
  rw [persistDqResultEvent, hterminal, Bool.not_true, if_neg Bool.false_ne_true]
  cases buildReportEvent lookups now run body with
  | error exc => rfl
  | ok event =>
    rw [Effect.ofExcept_ok_bind, Effect.run_bind]
    dsimp only
    cases (EventStore.recordResultEvent event).run events with
    | mk outcome after =>
      cases outcome with
      | ok _ => rfl
      | error _ => rfl

/-- The second event of a report changes nothing in the store. -/
theorem persistDqResultEvent_twice (lookups : Lookups) (now now' : ℕ)
    (hsame : SameContent run run') (hterminal : body.newStatus.terminal = true)
    (events : EventStore) :
    ((persistDqResultEvent lookups now' run' body).run
        ((persistDqResultEvent lookups now run body).run events).2).2 =
      ((persistDqResultEvent lookups now run body).run events).2 := by
  rw [persistDqResultEvent_run lookups now' run' hterminal]
  cases hsecond : buildReportEvent lookups now' run' body with
  | error exc => rfl
  | ok event =>
    obtain ⟨before, hfirst, hid⟩ := buildReportEvent_touched hsame hsecond
    rw [persistDqResultEvent_run lookups now run hterminal, hfirst]
    apply EventStore.recordResultEvent_unchanged
    rw [← hid]
    exact EventStore.recordResultEvent_present before events

end Event

/-! ### The stored run -/

theorem or_or {α : Type} (a b : Option α) : a.or (a.or b) = a.or b := by
  rw [← Option.or_assoc, Option.or_self]

theorem getD_getD {α : Type} (a : Option α) (b : α) : a.getD (a.getD b) = a.getD b := by
  cases a <;> rfl

namespace InMemory

variable [PyDatetime]

/-- A time that was given, unless as the empty text, or that is due and was set, stays. -/
theorem stamped_stamped {due : Bool} {given stored : Option Text} (hgiven : given ≠ some [])
    (now now' : ℕ) :
    stamped due given (stamped due given stored now) now' = stamped due given stored now := by
  cases given with
  | some t =>
    have ht : truthyText (some t) = true := by
      rw [truthyText, bne_iff_ne]
      exact fun h => hgiven (congrArg some h)
    simp [stamped, ht]
  | none =>
    cases hdue : due && !truthyText stored with
    | true =>
      have hnow : truthyText (some (Datetime.nowIso now)) = true := by
        rw [truthyText, bne_iff_ne]
        exact Datetime.nowIso_ne_nil now
      simp [stamped, hdue, orNow, hnow]
    | false => simp [stamped, hdue]

theorem stamped_of_not_due (given stored : Option Text) (now : ℕ) :
    stamped false given stored now = given.or stored := rfl

theorem transitioned_twice {transition : StatusTransition}
    (hterminal : transition.newStatus.terminal = true) (hcompleted : transition.completedAt ≠ some [])
    (run : Run Text) (now now' : ℕ) :
    transitioned now' transition (transitioned now transition run) =
      { transitioned now transition run with updatedAt := now' } := by
  have hrunning : (transition.newStatus == .running) = false := by
    cases hstatus : transition.newStatus with
    | pending | running => rw [hstatus] at hterminal; cases hterminal
    | succeeded | failed | cancelled => rfl
  have hcompletedAt := @stamped_stamped _ true _ run.completedAt hcompleted now now'
  simp only [transitioned, Run.merge, hrunning, hterminal, stamped_of_not_due, or_or, getD_getD,
    hcompletedAt]

def forgetUpdate {Time : Type} (run : Run Time) : Run Time := { run with updatedAt := 0 }

/-- The stores agree on the history, and on the runs up to the times of their updates. -/
structure SameRuns (store store' : Store) : Prop where
  runs : ∀ id, (store'.find? id).map forgetUpdate = (store.find? id).map forgetUpdate
  history : store'.history = store.history

omit [PyDatetime] in
theorem SameRuns.refl (store : Store) : SameRuns store store := ⟨fun _ => rfl, rfl⟩

omit [PyDatetime] in
theorem SameRuns.put {store : Store} {runId : Text} {run : Run Text}
    (h : store.find? runId = some run) (updatedAt : ℕ) :
    SameRuns store (store.put runId { run with updatedAt }) := by
  constructor
  · intro id
    by_cases hid : id = runId
    · subst hid
      rw [Store.find?_put_self, h]
      rfl
    · rw [Store.find?_put_of_ne _ _ hid]
  · rfl

variable [PyRuntime] [PyNumerals]

omit [PyDatetime] in
theorem persisted_of_find? {store : Store} {runId : Text} {run : Run Text}
    (h : store.find? runId = some run) :
    store.persisted runId = buildRunEntity runId run (store.listRunStatusHistory runId) := by
  rw [Store.persisted, Store.getRun, h]
  dsimp only
  cases buildRunEntity runId run (store.listRunStatusHistory runId) <;> rfl

omit [PyRuntime] [PyDatetime] in
/-- Whether a run can be read back depends on its progress. -/
theorem buildRunEntity_touched {runId : Text} {run : Run Text} {history : List StatusHistory}
    {updatedAt : ℕ} {entity : RunEntity Text}
    (h : buildRunEntity runId { run with updatedAt } history = .ok entity) :
    ∃ before, buildRunEntity runId run history = .ok before ∧ SameContent before entity := by
  have hentity := toRun_of_buildRunEntity h
  subst hentity
  rw [buildRunEntity] at h ⊢
  refine ⟨{ run with id := runId, statusHistory := history }, ?_, ⟨rfl, rfl⟩⟩
  cases hprogress : run.executionProgress with
  | none => rfl
  | some progress =>
    rw [hprogress] at h
    obtain ⟨_, hread, _⟩ := ok_of_bind h
    dsimp only
    rw [hread]
    rfl

theorem find?_recordRunStatusTransition {store : Store} {transition : StatusTransition}
    {run : Run Text} (h : store.find? transition.runId = some run) (moment : Moment)
    (historyId : Text) :
    ((recordRunStatusTransition moment historyId transition).run store).2.find?
      transition.runId = some (transitioned moment.now transition run) := by
  rw [recordRunStatusTransition, Effect.run_ofState, h]
  dsimp only
  split
  · exact Store.find?_put_self _ _ _
  · rw [Store.find?_append, Store.find?_put_self]

theorem recordRunStatusTransition_same {store : Store} {transition : StatusTransition}
    {run : Run Text} (h : store.find? transition.runId = some run)
    (hstatus : run.status = transition.newStatus) (moment : Moment) (historyId : Text) :
    ((recordRunStatusTransition moment historyId transition).run store) =
      ((store.put transition.runId (transitioned moment.now transition run)).persisted
          transition.runId,
        store.put transition.runId (transitioned moment.now transition run)) := by
  rw [recordRunStatusTransition, Effect.run_ofState, h]
  dsimp only
  rw [if_pos hstatus]

/-- What a transition that returns has written. -/
theorem of_recordRunStatusTransition_ok {store after : Store} {transition : StatusTransition}
    {moment : Moment} {historyId : Text} {entity : RunEntity Text}
    (h : (recordRunStatusTransition moment historyId transition).run store = (.ok entity, after)) :
    ∃ run, store.find? transition.runId = some run ∧
      entity.toRun = transitioned moment.now transition run ∧ entity.id = transition.runId := by
  cases hfind : store.find? transition.runId with
  | none =>
    rw [recordRunStatusTransition, Effect.run_ofState, hfind] at h
    cases (Prod.mk.inj h).1
  | some run =>
    have hafter := find?_recordRunStatusTransition hfind moment historyId
    rw [h] at hafter
    have hpersisted : after.persisted transition.runId = .ok entity := by
      rw [recordRunStatusTransition, Effect.run_ofState, hfind] at h
      obtain ⟨houtcome, hstore⟩ := Prod.mk.inj h
      rw [hstore] at houtcome
      exact houtcome
    rw [persisted_of_find? hafter] at hpersisted
    have hentity := toRun_of_buildRunEntity hpersisted
    rw [hentity]
    exact ⟨run, rfl, rfl, rfl⟩

/-- A terminal transition that is recorded again. -/
theorem recordRunStatusTransition_twice {transition : StatusTransition}
    (hterminal : transition.newStatus.terminal = true)
    (hcompleted : transition.completedAt ≠ some []) (moment moment' : Moment)
    (historyId historyId' : Text) (store : Store) :
    let first := (recordRunStatusTransition moment historyId transition).run store
    let second := (recordRunStatusTransition moment' historyId' transition).run first.2
    SameRuns first.2 second.2 ∧
      ∀ entity, second.1 = .ok entity → ∃ before, first.1 = .ok before ∧
        SameContent before entity := by
  intro first second
  cases hfind : store.find? transition.runId with
  | none =>
    have hfirst : first = (.error (.builtin "ValueError" "GX execution run not found"), store) := by
      show (recordRunStatusTransition moment historyId transition).run store = _
      rw [recordRunStatusTransition, Effect.run_ofState, hfind]
    have hsecond : second = (.error (.builtin "ValueError" "GX execution run not found"), store) := by
      show (recordRunStatusTransition moment' historyId' transition).run first.2 = _
      rw [hfirst, recordRunStatusTransition, Effect.run_ofState, hfind]
    rw [hfirst, hsecond]
    exact ⟨.refl store, fun entity h => by cases h⟩
  | some run =>
    have hafter : first.2.find? transition.runId = some (transitioned moment.now transition run) :=
      find?_recordRunStatusTransition hfind moment historyId
    have hsecond : second = _ := recordRunStatusTransition_same hafter rfl moment' historyId'
    rw [transitioned_twice hterminal hcompleted] at hsecond
    have hoffirst : first.1 = first.2.persisted transition.runId := by
      show ((recordRunStatusTransition moment historyId transition).run store).1 = _
      rw [show first.2 = ((recordRunStatusTransition moment historyId transition).run store).2
        from rfl, recordRunStatusTransition, Effect.run_ofState, hfind]
    rw [hsecond]
    refine ⟨.put hafter _, ?_⟩
    intro entity hentity
    rw [persisted_of_find? (Store.find?_put_self _ _ _)] at hentity
    obtain ⟨before, hbefore, hsame⟩ := buildRunEntity_touched hentity
    refine ⟨before, ?_, hsame⟩
    rw [hoffirst, persisted_of_find? hafter]
    exact hbefore

end InMemory

/-! ### The report applied twice -/

section Twice

variable [PyRuntime] [PyNumerals] [PyDatetime]

omit [PyRuntime] [PyNumerals] [PyDatetime] in
theorem SameContent.texts {Time : Type} {run run' : RunEntity Time} (h : SameContent run run')
    (text : Time → Text) : SameContent (run.texts text) (run'.texts text) := by
  constructor
  · simp only [RunEntity.texts, h.content]
  · exact h.id

def afterReport (lookups : Lookups) (moment : Moment) (historyId runId : Text) (body : ReportBody)
    (api : Api InMemory.Store) : Api InMemory.Store :=
  ((reportExecutionRun InMemory.repository lookups moment historyId runId body).run api).2

omit [PyRuntime] [PyNumerals] [PyDatetime] in
def AsOnce (once twice : Api InMemory.Store) : Prop :=
  (∀ id, twice.runs.find? id = once.runs.find? id) ∧ twice.runs.history = once.runs.history ∧
    twice.events = once.events

omit [PyRuntime] [PyNumerals] [PyDatetime] in
/-- The stores agree on the runs up to the times of their updates, the status history and the
result events. -/
def AsOnceButUpdated (once twice : Api InMemory.Store) : Prop :=
  (∀ id, (twice.runs.find? id).map InMemory.forgetUpdate =
    (once.runs.find? id).map InMemory.forgetUpdate) ∧
    twice.runs.history = once.runs.history ∧ twice.events = once.events

theorem events_afterReport {lookups : Lookups} {moment : Moment} {historyId runId : Text}
    {body : ReportBody} {transition : StatusTransition}
    (h : buildTransition runId body = .ok transition) (api : Api InMemory.Store) :
    (afterReport lookups moment historyId runId body api).events =
      eventsAfter lookups id moment.now body api.events
        ((InMemory.recordRunStatusTransition moment historyId transition).run api.runs).1 :=
  events_reportExecutionRun InMemory.repository h api

/-- Redelivery is harmless but for the time of the update: the same terminal report, whose time of
completion is not the empty text, applied again to any stores. -/
theorem report_redelivered (lookups : Lookups) (first second : Moment)
    (historyId historyId' runId : Text) (body : ReportBody)
    (hterminal : body.newStatus.terminal = true) (hcompleted : body.completedAt ≠ some [])
    (api : Api InMemory.Store) :
    AsOnceButUpdated (afterReport lookups first historyId runId body api)
      (afterReport lookups second historyId' runId body
        (afterReport lookups first historyId runId body api)) := by
  cases hbuild : buildTransition runId body with
  | error exc =>
    have hunchanged : ∀ (moment : Moment) (historyId : Text) (api : Api InMemory.Store),
        afterReport lookups moment historyId runId body api = api := by
      intro moment historyId api
      rw [afterReport, reportExecutionRun_invalid _ hbuild]
    rw [hunchanged, hunchanged]
    exact ⟨fun _ => rfl, rfl, rfl⟩
  | ok transition =>
    obtain ⟨_, hstatus, hcompletedAt⟩ := buildTransition_fields hbuild
    rw [← hstatus] at hterminal
    have htwice := InMemory.recordRunStatusTransition_twice hterminal
      (hcompletedAt ▸ hcompleted) first second historyId historyId' api.runs
    have hruns : ∀ (moment : Moment) (historyId : Text) (api : Api InMemory.Store),
        (afterReport lookups moment historyId runId body api).runs =
          ((InMemory.recordRunStatusTransition moment historyId transition).run api.runs).2 :=
      fun moment historyId api => runs_reportExecutionRun InMemory.repository hbuild api
    obtain ⟨hsame, houtcome⟩ := htwice
    refine ⟨?_, ?_, ?_⟩
    · rw [hruns second, hruns first]
      exact hsame.runs
    · rw [hruns second, hruns first]
      exact hsame.history
    · rw [events_afterReport hbuild, hruns first, events_afterReport hbuild]
      cases hsecond : ((InMemory.recordRunStatusTransition second historyId' transition).run
          ((InMemory.recordRunStatusTransition first historyId transition).run
            api.runs).2).1 with
      | error exc => rfl
      | ok entity =>
        obtain ⟨before, hbefore, hcontent⟩ := houtcome entity hsecond
        rw [hbefore]
        exact persistDqResultEvent_twice lookups first.now second.now (hcontent.texts id)
          (hstatus ▸ hterminal) api.events

end Twice

section Example

local instance sampleRuntimeRedelivery : PyRuntime := .ascii (fun _ => .nan) (fun _ => [])

local instance sampleNumeralsRedelivery : PyNumerals := ⟨fun _ => none, fun _ => none, id⟩

local instance sampleDatetimeRedelivery : PyDatetime := .epoch

/-- A running run. -/
def sampleRun : Run Text where
  suiteId := none
  suiteVersion := none
  ruleId := some "rule"
  ruleVersionId := none
  correlationId := "corr"
  requestedBy := none
  engineType := "gx"
  engineTarget := "spark"
  executionShape := "single_object"
  status := .running
  submittedAt := "1970-01-01T00:00:00+00:00"
  startedAt := none
  completedAt := none
  executionProgress := none
  executionContract := none
  handoffPayload := none
  resultSummary := [entry "results" (.list [])]
  metrics := none
  diagnostics := []
  failureCode := none
  failureMessage := none
  comments := none
  createdAt := 0
  updatedAt := 0

def sampleApi : Api InMemory.Store := ⟨⟨[("run", sampleRun)], []⟩, [], []⟩

/-- No suite and no rule is found. -/
def sampleLookups : Lookups := ⟨fun _ _ => .ok none, fun _ => .ok none⟩

/-- A report that says only that the run succeeded. -/
def sampleReport : ReportBody :=
  { newStatus := .succeeded, changedBy := none, reason := none, details := none
    executionProgress := none, startedAt := none, completedAt := none, resultSummary := none
    metrics := none, performanceSummary := none, diagnostics := none, failureCode := none
    failureMessage := none }

def afterSample (reading : ℕ) (api : Api InMemory.Store) : Api InMemory.Store :=
  afterReport sampleLookups ⟨reading, reading⟩ "history" "run" sampleReport api

/-- The second application updates the run again. -/
theorem report_redelivered_counterexample :
    sampleReport.newStatus.terminal = true ∧
      ¬AsOnce (afterSample 1 sampleApi) (afterSample 2 (afterSample 1 sampleApi)) := by
  refine ⟨rfl, ?_⟩
  rintro ⟨hruns, _⟩
  have hupdated := congrArg (Option.map Run.updatedAt) (hruns "run")
  revert hupdated
  decide +kernel

theorem report_redelivered_sample :
    sampleReport.newStatus.terminal = true ∧ sampleReport.completedAt ≠ some [] ∧
      AsOnceButUpdated (afterSample 1 sampleApi) (afterSample 2 (afterSample 1 sampleApi)) :=
  ⟨rfl, by decide, report_redelivered sampleLookups ⟨1, 1⟩ ⟨2, 2⟩ "history" "history"
    "run" sampleReport rfl (by decide) sampleApi⟩

/-- The first application records one event, and the second keeps it. -/
example : ((afterSample 1 sampleApi).events.length, (afterSample 1 sampleApi).runs.history.length,
    (afterSample 2 (afterSample 1 sampleApi)).events.length) = (1, 1, 1) := by decide +kernel

end Example

end Runs

end DqMadeEasy
