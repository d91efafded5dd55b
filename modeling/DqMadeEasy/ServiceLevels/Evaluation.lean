import DqMadeEasy.Logic.Transition
import DqMadeEasy.ServiceLevels.Adherence

/-!
# Evaluating service levels

An evaluation records a breach event for every active definition that misses its target, in the store
that the adherence is read from. The breach events of a scope are selected with the events of its
runs, so an evaluation is an observation only where no definition selects what it records.
-/

namespace DqMadeEasy

namespace ServiceLevels

open Runs Transition Worker

section Evaluation

variable [PyRuntime] [PyDatetime]

/-! ### The evaluation -/

/-- An element of `breaches`. -/
structure Breach where
  definition : Definition
  currentValue : Option PyFloat
  observedEventCount : ℕ
  emittedAt : Text
  correlationId : Text
  severity : Text
  summary : Text

/-- The result of `evaluate_sla_slo_breaches`. -/
structure EvaluationResult where
  workspaceId : Text
  evaluatedAt : Text
  evaluatedDefinitions : ℕ
  breaches : List Breach

omit [PyRuntime] [PyDatetime] in
/-- The breach that is reported for a recorded event. -/
def breachOf (definition : Definition) (adherence : Adherence) (recorded : DqResultEvent) :
    Breach where
  definition := definition
  currentValue := adherence.currentValue
  observedEventCount := adherence.observedEventCount
  emittedAt := recorded.emittedAt
  correlationId := recorded.correlation.correlationId
  severity := recorded.severity
  summary := adherence.summary

/-- The loop over the definitions. -/
def evaluateDefinitions (now : ℕ) : List Definition → Effect EventStore PyError (List Breach)
  | [] => pure []
  | definition :: definitions => do
    let store ← get
    let adherence ← Effect.ofExcept (adherenceOf now definition store)
    if adherence.meetsTarget = some false then
      let recorded ← EventStore.recordResultEvent (buildBreachEvent now definition adherence)
      let breaches ← evaluateDefinitions now definitions
      return breachOf definition adherence recorded :: breaches
    else evaluateDefinitions now definitions

def activeDefinitions (definitions : List Definition) (workspaceId : Text) : List Definition :=
  listSlaSloDefinitions definitions (some workspaceId) (some "active")

/-- `evaluate_sla_slo_breaches` at a reading of the clock. -/
def evaluateSlaSloBreaches (definitions : List Definition) (now : ℕ) (workspaceId : Text) :
    Effect EventStore PyError EvaluationResult := do
  let breaches ← evaluateDefinitions now (activeDefinitions definitions workspaceId)
  return {
    workspaceId
    evaluatedAt := Datetime.nowIso now
    evaluatedDefinitions := (activeDefinitions definitions workspaceId).length
    breaches }

/-! ### Observing -/

/-- The breaches of a store: what an evaluation reports that records nothing. -/
def breachesOf (now : ℕ) (store : EventStore) : List Definition → Except PyError (List Breach)
  | [] => .ok []
  | definition :: definitions => do
    let adherence ← adherenceOf now definition store
    let breaches ← breachesOf now store definitions
    return if adherence.meetsTarget = some false then
      breachOf definition adherence (buildBreachEvent now definition adherence) :: breaches
      else breaches

/-- From a time on, every definition selects the same events of two stores. -/
def Agree (definitions : List Definition) (since : ℕ) (store store' : EventStore) : Prop :=
  ∀ definition ∈ definitions, ∀ t, since ≤ t →
    loadEventsForDefinition t definition store' = loadEventsForDefinition t definition store

def Recordable (event : DqResultEvent) (store : EventStore) : Prop :=
  ∀ stored ∈ Assoc.find? store (EventStore.eventId event), stored = event

def recorded (event : DqResultEvent) (store : EventStore) : EventStore :=
  ((EventStore.recordResultEvent event).run store).2

/-- Every breach that an evaluation records can be recorded and is selected by no definition. -/
def Careful (all : List Definition) (now : ℕ) : List Definition → EventStore → Prop
  | [], _ => True
  | definition :: definitions, store => ∀ adherence,
    adherenceOf now definition store = .ok adherence →
      if adherence.meetsTarget = some false then
        let event := buildBreachEvent now definition adherence
        Recordable event store ∧ Agree all now store (recorded event store) ∧
          Careful all now definitions (recorded event store)
      else Careful all now definitions store

variable {all definitions : List Definition} {now : ℕ} {store store' first : EventStore}

theorem adherenceOf_congr {definition : Definition}
    (h : loadEventsForDefinition now definition store' =
      loadEventsForDefinition now definition store) :
    adherenceOf now definition store' = adherenceOf now definition store := by
  rw [adherenceOf, adherenceOf, h]

variable {event : DqResultEvent}

omit [PyRuntime] [PyDatetime] in
theorem run_recordResultEvent (h : Recordable event store) :
    (EventStore.recordResultEvent event).run store = (.ok event, recorded event store) := by
  refine Prod.ext ?_ rfl
  rw [EventStore.recordResultEvent, Effect.run_ofState]
  cases hfind : Assoc.find? store (EventStore.eventId event) with
  | none => rfl
  | some stored =>
    have hsame : stored = event := h stored hfind
    dsimp only
    rw [if_pos hsame, hsame]

theorem Agree.trans {store'' : EventStore} (h : Agree all now store store')
    (h' : Agree all now store' store'') : Agree all now store store'' := by
  intro definition hmem t ht
  rw [h' definition hmem t ht, h definition hmem t ht]

theorem Agree.later {t : ℕ} (h : Agree all now store store') (ht : now ≤ t) :
    Agree all t store store' :=
  fun definition hmem t' ht' => h definition hmem t' (ht.trans ht')

/-- A careful evaluation reports the breaches of the first store and selects the same events. -/
theorem run_evaluateDefinitions (hsub : definitions ⊆ all) (hagree : Agree all now first store)
    (hcareful : Careful all now definitions store) :
    ∃ store', (evaluateDefinitions now definitions).run store =
        (breachesOf now first definitions, store') ∧ Agree all now first store' := by
  induction definitions generalizing store with
  | nil => exact ⟨store, rfl, hagree⟩
  | cons definition definitions ih =>
    have hmem : definition ∈ all := hsub (List.mem_cons_self ..)
    have hrest : definitions ⊆ all := fun _ h => hsub (List.mem_cons_of_mem _ h)
    have hsame : adherenceOf now definition store = adherenceOf now definition first :=
      adherenceOf_congr (hagree definition hmem now le_rfl)
    rw [evaluateDefinitions, Effect.run_bind_ok (Effect.run_get _), breachesOf, ← hsame]
    cases hadherence : adherenceOf now definition store with
    | error exc => exact ⟨store, rfl, hagree⟩
    | ok adherence =>
      have hstep := hcareful adherence hadherence
      rw [Effect.ofExcept_ok_bind, ok_bind]
      by_cases hmissed : adherence.meetsTarget = some false
      · rw [if_pos hmissed] at hstep ⊢
        obtain ⟨hrecordable, hunseen, hcareful⟩ := hstep
        obtain ⟨after, hrun, hafter⟩ := ih hrest (hagree.trans hunseen) hcareful
        refine ⟨after, ?_, hafter⟩
        rw [Effect.run_bind_ok (run_recordResultEvent hrecordable), Effect.run_bind, hrun]
        cases breachesOf now first definitions with
        | error exc => rfl
        | ok breaches =>
          rw [ok_bind, if_pos hmissed]
          rfl
      · rw [if_neg hmissed] at hstep ⊢
        obtain ⟨after, hrun, hafter⟩ := ih hrest hagree hstep
        refine ⟨after, ?_, hafter⟩
        rw [hrun]
        cases breachesOf now first definitions with
        | error exc => rfl
        | ok breaches =>
          rw [ok_bind, if_neg hmissed]
          rfl

/-! ### Runs of evaluations -/

/-- The clock and the stored events. -/
structure Board where
  clock : ℕ
  events : EventStore

/-- The evaluation of a workspace, not before the clock. -/
def Step (definitions : List Definition) (board : Board) (event : ℕ × Text) (board' : Board) :
    Prop :=
  board.clock ≤ event.1 ∧ board' = ⟨event.1,
    ((evaluateSlaSloBreaches definitions event.1 event.2).run board.events).2⟩

def Observes (definitions : List Definition) (board : Board) (event : ℕ × Text) : Prop :=
  Careful definitions event.1 (activeDefinitions definitions event.2) board.events

omit [PyDatetime] in
theorem activeDefinitions_subset (definitions : List Definition) (workspaceId : Text) :
    activeDefinitions definitions workspaceId ⊆ definitions := by
  intro definition hmem
  rw [activeDefinitions, listSlaSloDefinitions, List.mem_reverse, Sorted.mem_sortOn,
    List.mem_reverse] at hmem
  exact (List.mem_filter.mp hmem).1

theorem run_evaluateSlaSloBreaches {workspaceId : Text} (hagree : Agree all now first store)
    (hcareful : Careful all now (activeDefinitions all workspaceId) store) :
    ∃ store', (evaluateSlaSloBreaches all now workspaceId).run store =
        ((breachesOf now first (activeDefinitions all workspaceId)).map fun breaches =>
          ⟨workspaceId, Datetime.nowIso now, (activeDefinitions all workspaceId).length, breaches⟩,
          store') ∧ Agree all now first store' := by
  obtain ⟨after, hrun, hafter⟩ :=
    run_evaluateDefinitions (activeDefinitions_subset all workspaceId) hagree hcareful
  refine ⟨after, ?_, hafter⟩
  rw [evaluateSlaSloBreaches, Effect.run_bind, hrun]
  cases breachesOf now first (activeDefinitions all workspaceId) <;> rfl

/-- The event is not of the scope of a definition. -/
def OutOfScope (definition : Definition) (event : DqResultEvent) : Prop :=
  (EventStore.textMatches (scopeQuery definition).ruleId (some event.rule.id) &&
    EventStore.textMatches (scopeQuery definition).datasetId (some event.dataset.id) &&
    EventStore.textMatches (scopeQuery definition).domainId (event.domain.map DqResultDomain.id) &&
    EventStore.textMatches (scopeQuery definition).dataProductId event.dataset.dataProductId &&
    EventStore.textMatches (scopeQuery definition).severity (some event.severity) &&
    EventStore.textMatches (scopeQuery definition).status (some event.runOutcome.status)) = false

omit [PyRuntime] in
theorem matchingRows_append {query : EventStore.Query} {after before : Option Datetime}
    (h : EventStore.matchesQuery query after before event = .ok false) (events : List DqResultEvent)
    :
    EventStore.matchingRows query after before (events ++ [event]) =
      EventStore.matchingRows query after before events := by
  induction events with
  | nil =>
    show (EventStore.matchesQuery query after before event >>= _) = _
    rw [h]
    rfl
  | cons other events ih =>
    rw [List.cons_append, EventStore.matchingRows, EventStore.matchingRows, ih]

omit [PyRuntime] in
theorem listResultEvents_append {query : EventStore.Query}
    (h : ∀ after before, EventStore.matchesQuery query after before event = .ok false) (id : Text)
    (store : EventStore) :
    EventStore.listResultEvents (store ++ [(id, event)]) query =
      EventStore.listResultEvents store query := by
  have happend (after before : Option Datetime) := matchingRows_append (h after before)
  rw [EventStore.listResultEvents, EventStore.listResultEvents, List.map_append]
  simp only [List.map_cons, List.map_nil, happend]

/-- An event that is of no definition's scope is selected by none. -/
theorem agree_recorded (h : ∀ definition ∈ all, OutOfScope definition event) (since : ℕ) :
    Agree all since store (recorded event store) := by
  intro definition hmem t ht
  rw [loadEventsForDefinition, loadEventsForDefinition]
  cases lookbackStart t definition.lookbackAmount definition.lookbackUnit with
  | error exc => rfl
  | ok start =>
    rw [ok_bind, ok_bind, recorded, EventStore.recordResultEvent, Effect.run_ofState]
    cases hfind : Assoc.find? store (EventStore.eventId event) with
    | some stored =>
      dsimp only
      split <;> rfl
    | none =>
      dsimp only
      rw [Assoc.update_of_find?_none hfind]
      refine listResultEvents_append (fun after before => ?_) _ _
      have hscope := h definition hmem
      rw [OutOfScope] at hscope
      rw [EventStore.matchesQuery]
      dsimp only
      rw [hscope]
      rfl

end Evaluation

section Example

local instance sampleRuntimeLevels : PyRuntime := .ascii (fun _ => .nan) (fun _ => [])

local instance sampleDatetimeLevels : PyDatetime := .epoch

/-- A quality target of 90 for a scope. -/
def qualityLevel (scopeKind scopeId : String) : Definition where
  id := "level"
  workspaceId := "default"
  name := "Quality"
  scopeKind := scopeKind.toList
  scopeId := scopeId.toList
  metricKind := "quality_score"
  thresholdValue := .finite 90
  thresholdOperator := "gte"
  lookbackAmount := 30
  lookbackUnit := "day"
  lifecycleStatus := "active"
  approvalStatus := "approved"
  createdAt := none
  updatedAt := none

/-- A run of the rule on the orders that scored 85. -/
def poorRun : DqResultEvent where
  emittedAt := epochText 3
  severity := "info"
  dataset := ⟨"orders", none, none, none, none, none⟩
  domain := none
  rule := ⟨"rule", none, none, none, none, {}⟩
  runOutcome := ⟨"succeeded", none, some true, none, none, none, none, none,
    some (.finite 85), none, none, none, none⟩
  scoreDimensions := []
  correlation := ⟨"corr", some "run", none, none, none, none, none⟩

def poorBoard : Board := ⟨4, [("corr:run:succeeded", poorRun)]⟩

def evaluated (definition : Definition) : Board :=
  ⟨5, ((evaluateSlaSloBreaches [definition] 5 "default").run poorBoard.events).2⟩

def observed (definition : Definition) (board : Board) : Option ℕ :=
  (adherenceOf 5 definition board.events).toOption.map Adherence.observedEventCount

theorem observations :
    activeDefinitions [qualityLevel "rule" "rule"] "default" =
      [qualityLevel "rule" "rule"] ∧
    (evaluated (qualityLevel "rule" "rule")).events.length = 2 ∧
    observed (qualityLevel "dataset" "orders") poorBoard = some 1 ∧
    observed (qualityLevel "dataset" "orders") (evaluated (qualityLevel "dataset" "orders")) =
      some 2 := by
  decide +kernel

end Example

end ServiceLevels

end DqMadeEasy
