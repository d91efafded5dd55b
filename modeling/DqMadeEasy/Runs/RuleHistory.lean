import DqMadeEasy.Runs.Redelivery
import DqMadeEasy.Worker.Summary

/-!
# The result history of rules

A terminal report leaves one event, for the one rule that the API resolves for the run, with the
verdict of the whole run. The history is complete and truthful for the rules of the executed suites
exactly where these are that one rule, the status of the run is the verdict of that rule, and the
events of the rule can be listed.
-/

namespace DqMadeEasy

namespace Runs

open Artifacts Worker

/-! ### What the suites and the report say -/

def compiledRules (suites : List GxArtifactEnvelope) : List Text :=
  suites.flatMap fun suite => suite.compiledFrom.ruleIds

/-- The rule results of one summary: the rule and whether it passed. -/
def ruleResultsOf (summary : Json) : List (Text × Bool) :=
  ((summary.dictOrEmpty.get "rule_results").asList?.getD []).filterMap fun item =>
    match item.dictOrEmpty.get "rule_id" with
    | .scalar (.str ruleId) => some (ruleId, isText (item.dictOrEmpty.get "result") "passed")
    | _ => none

/-- The results of a report: of its targets or of its join pair, and of the suites of its
batches. -/
def reportedResults (body : ReportBody) : List (Text × Bool) :=
  (((body.resultSummary.getD []).get "results").asList?.getD []).flatMap fun item =>
    ruleResultsOf (item.dictOrEmpty.get "summary") ++
      ((item.dictOrEmpty.get "suite_results").asList?.getD []).flatMap fun suite =>
        ruleResultsOf (suite.dictOrEmpty.get "summary")

def RulePassed (results : List (Text × Bool)) (ruleId : Text) : Prop :=
  ∀ result ∈ results, result.1 = ruleId → result.2 = true

section History

variable [PyRuntime] [PyNumerals] [PyDatetime]

omit [PyRuntime] [PyNumerals] in
def Listed (store : EventStore) (runId ruleId : Text) (event : DqResultEvent) : Prop :=
  ∃ events, store.listResultEvents (store.ruleQuery ruleId) = .ok events ∧ event ∈ events ∧
    event.correlation.runId = some runId

omit [PyRuntime] [PyNumerals] in
/-- The history of a run is complete and truthful: events of it are returned for the rules of the
suites and for no others, and an event passed exactly where the results of its rule did. -/
def Truthful (store : EventStore) (runId : Text) (rules : List Text)
    (results : List (Text × Bool)) : Prop :=
  ∀ ruleId, ((∃ event, Listed store runId ruleId event) ↔ ruleId ∈ rules) ∧
    ∀ event, Listed store runId ruleId event →
      (event.runOutcome.passed = some true ↔ RulePassed results ruleId)

variable {event : DqResultEvent} {body : ReportBody}

omit [PyRuntime] [PyNumerals] in
theorem listed_iff {store : EventStore} {runId ruleId : Text} :
    Listed store runId ruleId event ↔
      EventStore.Sortable (store.ofRule ruleId) ∧ event ∈ store.map Prod.snd ∧
        event.rule.id = ruleId ∧ event.correlation.runId = some runId := by
  obtain ⟨hreturns, hperm⟩ := EventStore.listResultEvents_rule store ruleId
  constructor
  · rintro ⟨events, hevents, hmem, hrun⟩
    have hmem := (hperm events hevents).mem_iff.mp hmem
    obtain ⟨hstored, hrule⟩ := List.mem_filter.mp hmem
    exact ⟨hreturns.mp ⟨events, hevents⟩, hstored, of_decide_eq_true hrule, hrun⟩
  · rintro ⟨hsortable, hstored, hrule, hrun⟩
    obtain ⟨events, hevents⟩ := hreturns.mpr hsortable
    refine ⟨events, hevents, (hperm events hevents).mem_iff.mpr ?_, hrun⟩
    exact List.mem_filter.mpr ⟨hstored, decide_eq_true hrule⟩

/-! ### The event of a report -/

def entityOf (runId : Text) (run : Run Text) : RunEntity Text :=
  { run with id := runId, statusHistory := [] }

def resolvedRuleId (lookups : Lookups) (runId : Text) (run : Run Text) : Except PyError Text := do
  let suite ← lookups.suiteOf (entityOf runId run)
  let rule ← lookups.ruleOf (entityOf runId run)
  return eventRuleId (entityOf runId run) (suite.elim [] GxArtifactEnvelope.modelDump) rule

/-- The time at which the event of a terminal report is emitted: the time of completion that the
report gives, else the stored one, and where this is blank the time of the report. -/
def reportTime (now : ℕ) (run : Run Text) (body : ReportBody) : Text :=
  ((body.completedAt.or run.completedAt).bind nonBlank).getD (Datetime.nowIso now)

omit [PyRuntime] [PyNumerals] [PyDatetime] in
@[simp] theorem texts_id (run : RunEntity Text) : run.texts id = run := by
  rw [RunEntity.texts, Option.map_id, id, id]
  rfl

omit [PyRuntime] [PyNumerals] in
/-- The event of the run that a terminal transition leaves is emitted at the report's time. -/
theorem eventEmittedAt_transitioned {now : ℕ} {transition : StatusTransition} {run : Run Text}
    {entity : RunEntity Text} (hentity : entity.toRun = InMemory.transitioned now transition run)
    (hterminal : transition.newStatus.terminal = true)
    (hcompletedAt : transition.completedAt = body.completedAt) :
    eventEmittedAt now entity body = reportTime now run body := by
  have hupdated : entity.updatedAt = now := by rw [hentity]; rfl
  have hcompleted : entity.completedAt =
      InMemory.stamped true body.completedAt run.completedAt now := by
    rw [hentity, ← hcompletedAt, ← hterminal]
    rfl
  rw [eventEmittedAt_eq, hupdated, hcompleted, reportTime]
  cases body.completedAt with
  | some t =>
    cases t with
    | nil =>
      simp [firstText, InMemory.stamped, truthyText, InMemory.orNow, List.findSome?_cons]
    | cons c cs => cases ht : nonBlank (c :: cs) <;> simp [firstText, InMemory.stamped, truthyText, ht]
  | none =>
    cases run.completedAt with
    | none => simp [firstText, InMemory.stamped, truthyText, InMemory.orNow]
    | some t =>
      cases t with
      | nil => simp [firstText, InMemory.stamped, truthyText, InMemory.orNow]
      | cons c cs =>
        cases ht : nonBlank (c :: cs) <;> simp [firstText, InMemory.stamped, truthyText, ht]

/-- What a built event says of its rule, its run and its verdict. -/
theorem fields_of_buildReportEvent {lookups : Lookups} {now : ℕ} {run : RunEntity Text}
    (h : buildReportEvent lookups now run body = .ok event) :
    ∃ suite rule, lookups.suiteOf run = .ok suite ∧ lookups.ruleOf run = .ok rule ∧
      event.rule.id = eventRuleId run (suite.elim [] GxArtifactEnvelope.modelDump) rule ∧
      event.emittedAt = eventEmittedAt now run body ∧
      event.correlation.runId = some run.id ∧
      event.runOutcome.passed = some (body.newStatus == .succeeded) := by
  obtain ⟨suite, hsuite, h⟩ := ok_of_bind h
  obtain ⟨rule, hrule, h⟩ := ok_of_bind h
  rw [buildDqResultEvent] at h
  obtain ⟨_, _, h⟩ := ok_of_bind h
  obtain ⟨_, _, h⟩ := ok_of_bind h
  cases h
  refine ⟨suite, rule, hsuite, hrule, rfl, rfl, rfl, ?_⟩
  dsimp only
  rw [eventStatus_eq]
  cases body.newStatus <;> rfl

/-- A terminal report that returns has recorded the event of the run and the report. -/
theorem accepted_event {lookups : Lookups} {moment : Moment} {historyId runId : Text}
    {api after : Api InMemory.Store} {updated : RunEntity Text}
    (hterminal : body.newStatus.terminal = true)
    (h : (reportExecutionRun InMemory.repository lookups moment historyId runId body).run api =
      (.ok updated, after)) :
    ∃ run event recorded, api.runs.find? runId = some run ∧
      resolvedRuleId lookups runId run = .ok event.rule.id ∧
      event.emittedAt = reportTime moment.now run body ∧
      event.correlation.runId = some runId ∧
      event.runOutcome.passed = some (body.newStatus == .succeeded) ∧
      (EventStore.recordResultEvent event).run api.events = (.ok recorded, after.events) := by
  obtain ⟨transition, count, hbuild, hrun, hevents⟩ := reportExecutionRun_ok _ h
  obtain ⟨hid, hstatus, hcompletedAt⟩ := buildTransition_fields hbuild
  obtain ⟨run, hfind, hentity, hentityId⟩ := InMemory.of_recordRunStatusTransition_ok hrun
  rw [show InMemory.repository.text = id from rfl, texts_id, persistDqResultEvent, hterminal,
    Bool.not_true, if_neg Bool.false_ne_true] at hevents
  obtain ⟨event, between, hbuilt, hevents⟩ := Effect.ok_of_run_bind hevents
  obtain ⟨hevent, hbetween⟩ := Effect.ok_of_run_ofExcept hbuilt
  subst hbetween
  obtain ⟨recorded, between, hrecord, hevents⟩ := Effect.ok_of_run_bind hevents
  obtain ⟨_, hafter⟩ := Prod.mk.inj hevents
  obtain ⟨suite, rule, hsuite, hrule, hruleId, hemitted, hcorrelation, hpassed⟩ :=
    fields_of_buildReportEvent hevent
  rw [hid] at hfind hentityId
  refine ⟨run, event, recorded, hfind, ?_, ?_, ?_, hpassed, ?_⟩
  · have hsuiteOf : lookups.suiteOf (entityOf runId run) = lookups.suiteOf updated := by
      rw [Lookups.suiteOf, Lookups.suiteOf, hentity]
      rfl
    have hruleOf : lookups.ruleOf (entityOf runId run) = lookups.ruleOf updated := by
      rw [Lookups.ruleOf, Lookups.ruleOf, hentity]
      rfl
    rw [resolvedRuleId, hsuiteOf, hsuite, ok_bind, hruleOf, hrule, ok_bind, hruleId, eventRuleId,
      eventRuleId, hentity, hentityId]
    rfl
  · rw [hemitted, eventEmittedAt_transitioned hentity (hstatus ▸ hterminal) hcompletedAt]
  · rw [hcorrelation, hentityId]
  · rw [← hafter]
    exact hrecord

/-- The condition under which a terminal report of a stored run is recorded truthfully: the rules of
the suites are the one that the API resolves, the status is its verdict, and its events can be
sorted with the one of the report. -/
def RecordsTruthfully (lookups : Lookups) (now : ℕ) (runId : Text) (body : ReportBody)
    (api : Api InMemory.Store) (rules : List Text) (results : List (Text × Bool)) : Prop :=
  ∃ run ruleId, api.runs.find? runId = some run ∧ resolvedRuleId lookups runId run = .ok ruleId ∧
    (∀ rule, rule ∈ rules ↔ rule = ruleId) ∧
    (body.newStatus = .succeeded ↔ RulePassed results ruleId) ∧
    ∃ zone, EventStore.emissionZone (reportTime now run body) = some zone ∧
      ∀ event ∈ api.events.ofRule ruleId, EventStore.emissionZone event.emittedAt = some zone

omit [PyRuntime] [PyNumerals] in
/-- After the recording of the first event of a run, that event is the only one of the run. -/
theorem listed_recorded {store after : EventStore} {runId : Text}
    (hfresh : ∀ other ∈ store.map Prod.snd, other.correlation.runId ≠ some runId)
    (hrun : event.correlation.runId = some runId)
    (hafter : after.map Prod.snd = store.map Prod.snd ++ [event]) {ruleId : Text}
    {other : DqResultEvent} :
    Listed after runId ruleId other ↔
      EventStore.Sortable (after.ofRule ruleId) ∧ other = event ∧ event.rule.id = ruleId := by
  rw [listed_iff, hafter]
  constructor
  · rintro ⟨hsortable, hmem, hrule, hother⟩
    rcases List.mem_append.mp hmem with hold | hnew
    · exact absurd hother (hfresh other hold)
    · obtain rfl := List.mem_singleton.mp hnew
      exact ⟨hsortable, rfl, hrule⟩
  · rintro ⟨hsortable, rfl, hrule⟩
    exact ⟨hsortable, List.mem_append_right _ (List.mem_singleton_self _), hrule, hrun⟩

omit [PyRuntime] [PyNumerals] in
theorem sortable_recorded {store after : EventStore}
    (hafter : after.map Prod.snd = store.map Prod.snd ++ [event]) :
    EventStore.Sortable (after.ofRule event.rule.id) ↔
      ∃ zone, EventStore.emissionZone event.emittedAt = some zone ∧
        ∀ other ∈ store.ofRule event.rule.id, EventStore.emissionZone other.emittedAt = some zone := by
  have hof : after.ofRule event.rule.id = store.ofRule event.rule.id ++ [event] := by
    rw [EventStore.ofRule, hafter, List.filter_append, EventStore.ofRule]
    simp
  rw [EventStore.Sortable, hof]
  constructor
  · rintro ⟨zone, h⟩
    exact ⟨zone, h event (List.mem_append_right _ (List.mem_singleton_self _)),
      fun other hother => h other (List.mem_append_left _ hother)⟩
  · rintro ⟨zone, hevent, hothers⟩
    refine ⟨zone, fun other hother => ?_⟩
    rcases List.mem_append.mp hother with hold | hnew
    · exact hothers other hold
    · rw [List.mem_singleton.mp hnew]
      exact hevent

/-- The result history of the rules of the executed suites is complete and truthful, once the
terminal report of a run has been accepted, exactly under that condition. The run has no event
before its terminal report, and the suites were compiled from some rule. -/
theorem rule_history_iff (lookups : Lookups) (moment : Moment) (historyId runId : Text)
    (body : ReportBody) (executed : List GxArtifactEnvelope) (api after : Api InMemory.Store)
    (updated : RunEntity Text) (hterminal : body.newStatus.terminal = true)
    (haccepted : (reportExecutionRun InMemory.repository lookups moment historyId runId body).run
      api = (.ok updated, after))
    (hfresh : ∀ event ∈ api.events.map Prod.snd, event.correlation.runId ≠ some runId)
    (hcompiled : compiledRules executed ≠ []) :
    Truthful after.events runId (compiledRules executed) (reportedResults body) ↔
      RecordsTruthfully lookups moment.now runId body api (compiledRules executed)
        (reportedResults body) := by
  obtain ⟨run, event, recorded, hfind, hrule, hemitted, hrun, hpassed, hrecord⟩ :=
    accepted_event hterminal haccepted
  have hafter : after.events.map Prod.snd = api.events.map Prod.snd ++ [event] := by
    rcases EventStore.values_of_recordResultEvent hrecord with hmem | hafter
    · exact absurd hrun (hfresh event hmem)
    · exact hafter
  have hlisted : ∀ ruleId other, Listed after.events runId ruleId other ↔ _ :=
    fun _ _ => listed_recorded hfresh hrun hafter
  have hverdict : event.runOutcome.passed = some true ↔ body.newStatus = .succeeded := by
    rw [hpassed, Option.some.injEq, beq_iff_eq]
  constructor
  · intro htruthful
    obtain ⟨rule, hmem⟩ := List.exists_mem_of_ne_nil _ hcompiled
    have honly : ∀ rule, rule ∈ compiledRules executed →
        EventStore.Sortable (after.events.ofRule rule) ∧ event.rule.id = rule := by
      intro rule hrule
      obtain ⟨other, hother⟩ := (htruthful rule).1.mpr hrule
      obtain ⟨hsortable, _, hid⟩ := (hlisted rule other).mp hother
      exact ⟨hsortable, hid⟩
    obtain ⟨hsortable, hid⟩ := honly rule hmem
    subst hid
    refine ⟨run, event.rule.id, hfind, hrule, ?_, ?_, ?_⟩
    · intro rule
      constructor
      · exact fun hrule => (honly rule hrule).2.symm
      · rintro rfl
        exact hmem
    · rw [← hverdict]
      exact (htruthful event.rule.id).2 event ((hlisted _ _).mpr ⟨hsortable, rfl, rfl⟩)
    · rw [← hemitted]
      exact (sortable_recorded hafter).mp hsortable
  · rintro ⟨run', ruleId, hfind', hrule', hrules, hstatus, hzones⟩
    rw [hfind] at hfind'
    cases hfind'
    rw [hrule] at hrule'
    cases hrule'
    rw [← hemitted] at hzones
    have hsortable := (sortable_recorded hafter).mpr hzones
    intro ruleId
    constructor
    · rw [hrules]
      constructor
      · rintro ⟨other, hother⟩
        exact ((hlisted ruleId other).mp hother).2.2.symm
      · rintro rfl
        exact ⟨event, (hlisted _ _).mpr ⟨hsortable, rfl, rfl⟩⟩
    · intro other hother
      obtain ⟨_, rfl, rfl⟩ := (hlisted ruleId other).mp hother
      rw [hverdict]
      exact hstatus

end History

section Example

local instance sampleRuntimeHistory : PyRuntime := .ascii (fun _ => .nan) (fun _ => [])

local instance sampleNumeralsHistory : PyNumerals := ⟨fun _ => none, fun _ => none, id⟩

local instance sampleDatetimeHistory : PyDatetime := .epoch

/-- A suite that was compiled from rules. -/
def suiteOfRules (ruleIds : List Text) : GxArtifactEnvelope where
  suiteId := "suite"
  suiteVersion := 1
  suiteVersion_pos := Nat.one_pos
  artifactVersion := "1"
  assignmentScope := ⟨none, none, none, []⟩
  resolvedExecutionScope := ⟨["target"]⟩
  gxSuite := []
  distinctKeys := Json.distinctKeys_nil
  compiledFrom := ⟨ruleIds, "1", []⟩
  executionHints := ⟨none, [], [], none, none⟩
  executionContract := none
  savedBy := none
  sourcePipeline := none
  status := none
  artifactHash := none

def passedTarget : Json :=
  .dict [entry "data_object_version_id" (.text "target"), entry "ok" (.scalar (.bool true)),
    entry "summary" (.dict [entry "rule_results" (.list [.dict
      [entry "rule_id" (.text "rule"), entry "result" (.text "passed")]])])]

def passedReport : ReportBody :=
  { sampleReport with
    completedAt := some "1970-01-01T00:00:00.000005+00:00"
    resultSummary := some [entry "results" (.list [passedTarget])] }

def passedOutcome : Except ReportError (RunEntity Text) × Api InMemory.Store :=
  (reportExecutionRun InMemory.repository sampleLookups ⟨6, 6⟩ "history" "run"
    passedReport).run sampleApi

theorem passedOutcome_ok : ∃ updated, passedOutcome.1 = .ok updated := by
  have hok : passedOutcome.1.isOk = true := by decide +kernel
  cases houtcome : passedOutcome.1 with
  | error exc =>
    rw [houtcome] at hok
    cases hok
  | ok updated => exact ⟨updated, rfl⟩

/-- A suite of two rules: the event has the rule of the run, and the other rule has none. -/
theorem rule_history_counterexample :
    (∃ updated, passedOutcome.1 = .ok updated) ∧ sampleApi.events = [] ∧
      ¬Truthful passedOutcome.2.events "run".toList
        (compiledRules [suiteOfRules ["rule".toList, "other".toList]])
        (reportedResults passedReport) := by
  refine ⟨passedOutcome_ok, rfl, ?_⟩
  intro htruthful
  have hmem : "other".toList ∈
      compiledRules [suiteOfRules ["rule".toList, "other".toList]] := by decide
  obtain ⟨event, events, hevents, hevent, _⟩ := (htruthful "other".toList).1.mpr hmem
  have hnone : (passedOutcome.2.events.listResultEvents
      (passedOutcome.2.events.ruleQuery "other".toList)).toOption.map List.length = some 0 := by
    decide +kernel
  rw [hevents] at hnone
  have hempty : events = [] := List.length_eq_zero_iff.mp (Option.some.inj hnone)
  rw [hempty] at hevent
  cases hevent

/-- A suite of the rule of the run. -/
theorem rule_history_sample :
    Truthful passedOutcome.2.events "run" (compiledRules [suiteOfRules ["rule"]])
        (reportedResults passedReport) ↔
      RecordsTruthfully sampleLookups 6 "run" passedReport sampleApi
        (compiledRules [suiteOfRules ["rule"]]) (reportedResults passedReport) := by
  obtain ⟨updated, hupdated⟩ := passedOutcome_ok
  exact rule_history_iff sampleLookups ⟨6, 6⟩ "history" "run" passedReport
    [suiteOfRules ["rule"]] sampleApi passedOutcome.2 updated rfl
    (Prod.ext hupdated rfl) (fun _ h => absurd h List.not_mem_nil) (by decide)

/-- There the condition is met. -/
example : RecordsTruthfully sampleLookups 6 "run" passedReport sampleApi
    (compiledRules [suiteOfRules ["rule"]]) (reportedResults passedReport) :=
  ⟨sampleRun, "rule", rfl, rfl, fun _ => List.mem_singleton, by
    constructor
    · intro _ result hresult _
      have hall : ∀ result ∈ reportedResults passedReport, result.2 = true := by decide +kernel
      exact hall result hresult
    · exact fun _ => rfl, true, by decide +kernel, fun _ h => absurd h List.not_mem_nil⟩

end Example

end Runs

end DqMadeEasy
