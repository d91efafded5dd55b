import Mathlib.Data.List.Chain
import DqMadeEasy.Logic.Transition
import DqMadeEasy.RunPlans.Plan

/-!
# The invariant of run plans

At most one version of a plan may run, the plan names it and is active exactly then, and the history
of every version is a chain. The repository checks the state of the version that it moves, and no
more: a transition may deactivate a version and leave the plan as it is, and an activation supersedes
the active version as if no deactivation of it were requested. The invariant is carried by the
operations that do neither.
-/

namespace DqMadeEasy

namespace RunPlans

open Transition Worker

/-! ### The law -/

/-- The states in which a version may run. -/
def LiveState (state : Text) : Prop :=
  state = GovernanceState.active.text ∨ state = GovernanceState.deactivationRequested.text

instance (state : Text) : Decidable (LiveState state) := inferInstanceAs (Decidable (_ ∨ _))

namespace Plan

def liveVersions (plan : Plan) : List Text :=
  Assoc.keys (plan.versions.filter fun entry => LiveState entry.2.governanceState)

def eventsOf (plan : Plan) (versionId : Text) : List TransitionEvent :=
  plan.transitionEvents.filter fun event => event.runPlanVersionId = versionId

end Plan

/-- An event starts where the one before it ended. -/
def Chained (events : List TransitionEvent) : Prop :=
  events.IsChain fun event next => next.fromState = some event.toState

instance (events : List TransitionEvent) : Decidable (Chained events) :=
  inferInstanceAs (Decidable (List.IsChain _ events))

/-- What a plan should be like. -/
structure Lawful (plan : Plan) : Prop where
  single : plan.liveVersions.length ≤ 1
  current : plan.currentActiveVersionId = plan.liveVersions.head?
  status : plan.status = GovernanceState.active.text ↔ plan.liveVersions ≠ []
  chained : ∀ versionId, Chained (plan.eventsOf versionId)

/-! ### The operations -/

/-- What is asked of the repository. -/
inductive Operation where
  | create (creation : CreatePlan)
  | createVersion (creation : CreatePlanVersion)
  | transition (change : TransitionPlanVersion)
  | activate (activation : ActivatePlan)
  | deactivate (deactivation : DeactivatePlan)
  | recordDispatch (dispatch : RecordPlanDispatch)

namespace Operation

/-- The method that is called. -/
def perform (runPlanId : Text) : Operation → Effect Repository PyError Plan
  | .create creation => createPlan runPlanId creation
  | .createVersion creation => createPlanVersion runPlanId creation
  | .transition change => transitionPlanVersion runPlanId change
  | .activate activation => activatePlan runPlanId activation
  | .deactivate deactivation => deactivatePlan runPlanId deactivation
  | .recordDispatch dispatch => recordPlanDispatch runPlanId dispatch

/-- What becomes of the plan, if the method does not raise. -/
def Becomes : Operation → Option Plan → Plan → Prop
  | .create creation, plan?, after => plan? = none ∧ after = creation.plan
  | .createVersion creation, plan?, after =>
    ∃ plan, plan? = some plan ∧ after = plan.createVersion creation
  | .transition change, plan?, after =>
    ∃ plan, plan? = some plan ∧ plan.transitionVersion change = .ok after
  | .activate activation, plan?, after =>
    ∃ plan, plan? = some plan ∧ plan.activateVersion activation = .ok after
  | .deactivate deactivation, plan?, after =>
    ∃ plan, plan? = some plan ∧ plan.deactivateVersion deactivation = .ok after
  | .recordDispatch dispatch, plan?, after =>
    ∃ plan, plan? = some plan ∧ plan.recordDispatch dispatch = .ok after

/-- A method raises and stores nothing, or it stores the plan that it returns. -/
theorem run_perform (operation : Operation) (runPlanId : Text) (plans : Repository) :
    (∃ exc, (operation.perform runPlanId).run plans = (.error exc, plans)) ∨
      ∃ after, operation.Becomes (plans.getPlan runPlanId) after ∧
        (operation.perform runPlanId).run plans =
          (.ok after, Assoc.update runPlanId (fun _ => after) plans) := by
  have hplan {change : Plan → Except PyError Plan}
      (hchange : ∀ plan after, change plan = .ok after → operation.Becomes (some plan) after) :
      (∃ exc, (onPlan runPlanId change).run plans = (.error exc, plans)) ∨
        ∃ after, operation.Becomes (plans.getPlan runPlanId) after ∧
          (onPlan runPlanId change).run plans =
            (.ok after, Assoc.update runPlanId (fun _ => after) plans) := by
    rcases run_onPlan runPlanId change plans with herror | ⟨plan, after, hfind, hafter, hrun⟩
    · exact .inl herror
    · exact .inr ⟨after, hfind ▸ hchange plan after hafter, hrun⟩
  cases operation with
  | create creation =>
    rw [perform, createPlan.eq_def, Effect.run_ofState]
    cases hfind : plans.getPlan runPlanId with
    | some plan => exact .inl ⟨_, rfl⟩
    | none => exact .inr ⟨creation.plan, ⟨rfl, rfl⟩, rfl⟩
  | createVersion creation =>
    exact hplan fun plan after h => ⟨plan, rfl, (Except.ok.inj h).symm⟩
  | transition change => exact hplan fun plan after h => ⟨plan, rfl, h⟩
  | activate activation => exact hplan fun plan after h => ⟨plan, rfl, h⟩
  | deactivate deactivation => exact hplan fun plan after h => ⟨plan, rfl, h⟩
  | recordDispatch dispatch => exact hplan fun plan after h => ⟨plan, rfl, h⟩

end Operation

def Step (plans : Repository) (event : Text × Operation) (plans' : Repository) : Prop :=
  plans' = ((event.2.perform event.1).run plans).2

/-! ### Careful operations -/

/-- A state that is stripped, or that no transition leaves. -/
def Spelled (state : Text) : Prop := Text.strip state = state ∨ movesFrom state = []

instance (state : Text) : Decidable (Spelled state) := inferInstanceAs (Decidable (_ ∨ _))

/-- The previous active version is superseded from `active`. -/
def Plan.Replaceable (plan : Plan) : Prop :=
  ∀ versionId ∈ plan.currentActiveVersionId, versionId ≠ [] ∧
    ∀ version ∈ plan.version? versionId,
      version.governanceState ≠ GovernanceState.deactivationRequested.text

instance (plan : Plan) : Decidable plan.Replaceable := by
  unfold Plan.Replaceable
  infer_instance

/-- An operation that does not create a plan with a version that may run or a version whose id the
plan has, does not deactivate through a transition, and does not activate over a version whose
deactivation is requested. -/
def Careful (plans : Repository) (event : Text × Operation) : Prop :=
  match event.2 with
  | .create creation => Spelled creation.status ∧ ¬LiveState creation.status
  | .createVersion creation => ∀ plan ∈ plans.getPlan event.1,
      plan.version? creation.runPlanVersionId = none
  | .transition change => Spelled change.targetState ∧
      Text.strip change.targetState ≠ GovernanceState.deactivated.text
  | .activate _ => ∀ plan ∈ plans.getPlan event.1, plan.Replaceable
  | .deactivate _ | .recordDispatch _ => True

instance (plans : Repository) (event : Text × Operation) : Decidable (Careful plans event) := by
  unfold Careful
  split <;> infer_instance

/-! ### States -/

theorem movesFrom_of_strip {state : Text} {named : GovernanceState}
    (h : Text.strip state = named.text) : movesFrom state = named.allowedTransitions := by
  rw [movesFrom, GovernanceState.ofText?_eq_some.mpr h, Option.elim_some]

theorem Spelled.eq_text {state : Text} {named : GovernanceState} (hspelled : Spelled state)
    (h : Text.strip state = named.text) (hmoves : named.allowedTransitions ≠ []) :
    state = named.text := by
  rcases hspelled with hstrip | hnone
  · rw [← hstrip, h]
  · exact absurd (movesFrom_of_strip h ▸ hnone) hmoves

theorem spelled_text (named : GovernanceState) : Spelled named.text :=
  .inl (GovernanceState.strip_text named)

theorem liveState_text {named : GovernanceState} : LiveState named.text ↔ named.live = true := by
  rw [LiveState, GovernanceState.text_inj, GovernanceState.text_inj]
  cases named <;> decide

theorem not_liveState {state : Text} {named : GovernanceState} (h : Text.strip state = named.text)
    (hlive : named.live = false) : ¬LiveState state := by
  intro hstate
  have hstrip : Text.strip state = state := by
    rcases hstate with rfl | rfl <;> exact GovernanceState.strip_text _
  rw [← hstrip, h, liveState_text, hlive] at hstate
  exact Bool.false_ne_true hstate

theorem not_liveState_text {named : GovernanceState} (hlive : named.live = false) :
    ¬LiveState named.text := not_liveState (GovernanceState.strip_text named) hlive

/-- Whether a version may run changes with activations and deactivations only. -/
theorem live_of_mem_allowedTransitions {current target : GovernanceState}
    (h : target ∈ current.allowedTransitions) (hne : target ≠ .deactivated) :
    target.live = current.live := by
  have htable : ∀ current ∈ GovernanceState.all, ∀ target ∈ current.allowedTransitions,
      target ≠ .deactivated → target.live = current.live := by decide
  exact htable current (GovernanceState.mem_all current) target h hne

/-! ### Histories -/

/-- A history that is a chain and ends in a state, or is empty. -/
structure Leads (events : List TransitionEvent) (state : Option Text) : Prop where
  chained : Chained events
  last : events.getLast?.map TransitionEvent.toState = state

namespace Leads

theorem nil : Leads [] none := ⟨List.isChain_nil, rfl⟩

theorem snoc {events : List TransitionEvent} {state : Option Text} {event : TransitionEvent}
    (h : Leads events state) (hfrom : event.fromState = state) :
    Leads (events ++ [event]) (some event.toState) := by
  constructor
  · refine List.isChain_append.mpr ⟨h.chained, List.isChain_singleton _, ?_⟩
    intro last hmem next hnext
    cases hnext
    rw [hfrom, ← h.last, Option.mem_def.mp hmem, Option.map_some]
  · rw [List.getLast?_append, List.getLast?_singleton]
    rfl

end Leads

/-! ### Versions and their histories -/

/-- Every version has an id of its own, a spelled state, and a history that leads to it. -/
structure Recorded (plan : Plan) : Prop where
  nodup : (Assoc.keys plan.versions).Nodup
  spelled : ∀ versionId version, plan.version? versionId = some version →
    Spelled version.governanceState
  history : ∀ versionId, Leads (plan.eventsOf versionId)
    ((plan.version? versionId).map Version.governanceState)

/-- One version is changed, and an event of the change is added. -/
structure Moves (plan after : Plan) (versionId : Text) (version : Version)
    (event : TransitionEvent) : Prop where
  versions : after.versions = Assoc.update versionId (fun _ => version) plan.versions
  events : after.transitionEvents = plan.transitionEvents ++ [event]
  eventId : event.runPlanVersionId = versionId
  toState : event.toState = version.governanceState

theorem eventsOf_append {plan after : Plan} {event : TransitionEvent}
    (h : after.transitionEvents = plan.transitionEvents ++ [event]) (versionId : Text) :
    after.eventsOf versionId = plan.eventsOf versionId ++
      if event.runPlanVersionId = versionId then [event] else [] := by
  rw [Plan.eventsOf, h, List.filter_append, List.filter_singleton]
  by_cases hid : event.runPlanVersionId = versionId
  · rw [if_pos hid, decide_eq_true hid]
    rfl
  · rw [if_neg hid, decide_eq_false hid]
    rfl

namespace Moves

variable {plan after : Plan} {versionId : Text} {version : Version} {event : TransitionEvent}

theorem version? (h : Moves plan after versionId version event) (other : Text) :
    after.version? other = if versionId = other then some version else plan.version? other := by
  rw [Plan.version?, h.versions, Assoc.find?_update, Plan.version?]

theorem of_version? (h : Moves plan after versionId version event) {other : Text} {v : Version}
    (hfind : after.version? other = some v) :
    other = versionId ∧ v = version ∨ other ≠ versionId ∧ plan.version? other = some v := by
  rw [h.version?] at hfind
  split at hfind
  · rename_i heq
    exact .inl ⟨heq.symm, (Option.some.inj hfind).symm⟩
  · rename_i hne
    exact .inr ⟨Ne.symm hne, hfind⟩

/-- A move from the state that the version is in keeps the histories. -/
theorem recorded (h : Moves plan after versionId version event) (hplan : Recorded plan)
    (hfrom : event.fromState = (plan.version? versionId).map Version.governanceState)
    (hspelled : Spelled version.governanceState) : Recorded after := by
  constructor
  · rw [h.versions]
    exact Assoc.nodup_keys_update hplan.nodup
  · intro other v hfind
    rcases h.of_version? hfind with ⟨-, rfl⟩ | ⟨-, hother⟩
    · exact hspelled
    · exact hplan.spelled other v hother
  · intro other
    have hhistory := hplan.history other
    rw [eventsOf_append h.events, h.version?, h.eventId]
    split
    · rename_i heq
      rw [← heq, ← hfrom] at hhistory
      rw [← heq, Option.map_some, ← h.toState]
      exact hhistory.snoc rfl
    · rw [List.append_nil]
      exact hhistory

end Moves

/-! ### The current active version -/

def NoneLive (plan : Plan) : Prop :=
  ∀ versionId version, plan.version? versionId = some version →
    ¬LiveState version.governanceState

/-- The plan names the version that may run, and is active when there is one. -/
structure Accounted (plan : Plan) : Prop where
  live : ∀ versionId version, plan.version? versionId = some version →
    (LiveState version.governanceState ↔ plan.currentActiveVersionId = some versionId)
  current : ∀ versionId, plan.currentActiveVersionId = some versionId →
    ∃ version, plan.version? versionId = some version
  status : plan.status = GovernanceState.active.text ↔ plan.currentActiveVersionId ≠ none

/-- The invariant of a plan. -/
structure Sound (plan : Plan) : Prop extends Recorded plan, Accounted plan

namespace Accounted

theorem idle {plan : Plan} (hlive : NoneLive plan) (hcurrent : plan.currentActiveVersionId = none)
    (hstatus : plan.status ≠ GovernanceState.active.text) : Accounted plan := by
  constructor
  · intro versionId version hfind
    rw [hcurrent]
    exact iff_of_false (hlive versionId version hfind) nofun
  · rw [hcurrent]
    exact fun _ => nofun
  · rw [hcurrent]
    exact iff_of_false hstatus fun h => h rfl

/-- A version of the plan that may run is the current one. -/
theorem liveVersions_eq {plan : Plan} (h : Accounted plan)
    (hnodup : (Assoc.keys plan.versions).Nodup) :
    plan.liveVersions = plan.currentActiveVersionId.toList := by
  have hmem (versionId : Text) :
      versionId ∈ plan.liveVersions ↔ versionId ∈ plan.currentActiveVersionId.toList := by
    rw [Plan.liveVersions, Assoc.keys, List.mem_map, Option.mem_toList]
    constructor
    · rintro ⟨⟨id, version⟩, hentry, rfl⟩
      obtain ⟨hentry, hlive⟩ := List.mem_filter.mp hentry
      exact (h.live id version (Assoc.find?_of_mem hnodup hentry)).mp (of_decide_eq_true hlive)
    · intro hcurrent
      obtain ⟨version, hfind⟩ := h.current versionId hcurrent
      have hlive := (h.live versionId version hfind).mpr hcurrent
      exact ⟨(versionId, version), List.mem_filter.mpr
        ⟨Assoc.mem_of_find? hfind, decide_eq_true hlive⟩, rfl⟩
  have hperm : plan.liveVersions.Perm plan.currentActiveVersionId.toList := by
    refine (List.perm_ext_iff_of_nodup ?_ ?_).mpr hmem
    · exact hnodup.sublist (List.filter_sublist.map _)
    · cases plan.currentActiveVersionId <;> simp
  cases hcurrent : plan.currentActiveVersionId with
  | none =>
    rw [hcurrent] at hperm
    exact hperm.eq_nil
  | some versionId =>
    rw [hcurrent] at hperm
    exact List.perm_singleton.mp hperm

end Accounted

namespace Sound

variable {plan after : Plan}

theorem lawful (h : Sound plan) : Lawful plan := by
  have hlive := h.liveVersions_eq h.nodup
  constructor
  · rw [hlive]
    cases plan.currentActiveVersionId <;> simp
  · rw [hlive]
    cases plan.currentActiveVersionId <;> rfl
  · rw [h.status, hlive]
    cases plan.currentActiveVersionId <;> simp
  · exact fun versionId => (h.history versionId).chained

/-! ### The operations keep the invariant -/

/-- The plan that is created. -/
theorem create {creation : CreatePlan} (hspelled : Spelled creation.status)
    (hlive : ¬LiveState creation.status) : Sound creation.plan := by
  have hversion {versionId : Text} {version : Version}
      (h : creation.plan.version? versionId = some version) :
      version.governanceState = creation.status := by
    have hmem := Assoc.mem_of_find? h
    cases List.mem_singleton.mp hmem
    rfl
  refine ⟨⟨?_, ?_, ?_⟩, Accounted.idle ?_ rfl ?_⟩
  · exact List.nodup_singleton _
  · intro versionId version hfind
    rwa [hversion hfind]
  · intro versionId
    show Leads (List.filter _ [_]) ((Assoc.find? [_] versionId).map _)
    rw [List.filter_singleton, Assoc.find?, Assoc.find?]
    by_cases hid : creation.runPlanVersionId = versionId
    · simp only [hid, decide_true, if_true]
      exact Leads.nil.snoc rfl
    · simp only [hid, decide_false, if_false]
      exact Leads.nil
  · intro versionId version hfind
    rwa [hversion hfind]
  · intro hstatus
    exact hlive (.inl hstatus)

/-- A move that does not change whether the version may run. -/
theorem of_moves (h : Sound plan) {versionId : Text} {before version : Version}
    {event : TransitionEvent} (hmoves : Moves plan after versionId version event)
    (hbefore : plan.version? versionId = some before)
    (hfrom : event.fromState = some before.governanceState)
    (hspelled : Spelled version.governanceState)
    (hlive : LiveState version.governanceState ↔ LiveState before.governanceState)
    (hcurrent : after.currentActiveVersionId = plan.currentActiveVersionId)
    (hstatus : after.status = GovernanceState.active.text ↔
      plan.currentActiveVersionId ≠ none) : Sound after := by
  have hrecorded : Recorded after := by
    refine hmoves.recorded h.toRecorded ?_ hspelled
    rw [hfrom, hbefore, Option.map_some]
  refine ⟨hrecorded, ?_, ?_, ?_⟩
  · intro other v hfind
    rw [hcurrent]
    rcases hmoves.of_version? hfind with ⟨rfl, rfl⟩ | ⟨-, hother⟩
    · rw [hlive]
      exact h.live other before hbefore
    · exact h.live other v hother
  · intro other hother
    rw [hmoves.version?]
    split
    · exact ⟨version, rfl⟩
    · exact h.current other (hcurrent ▸ hother)
  · rw [hstatus, hcurrent]

/-- A new version is a draft. -/
theorem createVersion (h : Sound plan) {creation : CreatePlanVersion}
    (hfresh : plan.version? creation.runPlanVersionId = none) :
    Sound (plan.createVersion creation) := by
  have hmoves : ∃ event, Moves plan (plan.createVersion creation) creation.runPlanVersionId
      creation.version event ∧ event.fromState = none := by
    refine ⟨_, ⟨?_, rfl, rfl, rfl⟩, rfl⟩
    rw [Assoc.update_of_find?_none hfresh]
    rfl
  obtain ⟨event, hmoves, hfrom⟩ := hmoves
  have hidle : ¬LiveState creation.version.governanceState := by
    rw [show creation.version.governanceState = GovernanceState.draft.text from rfl, liveState_text]
    decide
  have hcurrent : (plan.createVersion creation).currentActiveVersionId =
      plan.currentActiveVersionId := rfl
  refine ⟨hmoves.recorded h.toRecorded ?_ (spelled_text .draft), ?_, ?_, ?_⟩
  · rw [hfrom, hfresh, Option.map_none]
  · intro other v hfind
    rw [hcurrent]
    rcases hmoves.of_version? hfind with ⟨rfl, rfl⟩ | ⟨-, hother⟩
    · refine iff_of_false hidle fun hother => ?_
      obtain ⟨v', hv'⟩ := h.current _ hother
      rw [hfresh] at hv'
      cases hv'
    · exact h.live other v hother
  · intro other hother
    rw [hmoves.version?]
    split
    · exact ⟨creation.version, rfl⟩
    · exact h.current other hother
  · rw [hcurrent, ← h.status]
    show (if plan.currentActiveVersionId = none then _ else plan.status) = _ ↔ _
    split
    · rename_i hnone
      rw [h.status, GovernanceState.text_inj]
      exact iff_of_false (by decide) fun hne => hne hnone
    · exact Iff.rfl

end Sound

theorem exists_of_findVersion {plan : Plan} {versionId : Text} {α : Type}
    {f : Version → Except PyError α} {after : α} (h : plan.findVersion versionId >>= f = .ok after) :
    ∃ version, plan.version? versionId = some version ∧ f version = .ok after := by
  obtain ⟨version, hfind, hrest⟩ := ok_of_bind h
  rw [Plan.findVersion] at hfind
  cases hversion : plan.version? versionId with
  | none =>
    rw [hversion] at hfind
    cases hfind
  | some found =>
    rw [hversion] at hfind
    cases hfind
    exact ⟨version, rfl, hrest⟩

/-- What a transition of a version does. -/
theorem exists_of_transitionVersion {plan after : Plan} {change : TransitionPlanVersion}
    (h : plan.transitionVersion change = .ok after) : ∃ version current target,
      plan.version? change.runPlanVersionId = some version ∧
      Text.strip version.governanceState = GovernanceState.text current ∧
      Text.strip change.targetState = GovernanceState.text target ∧
      target ∈ current.allowedTransitions ∧ after = plan.applyTransition change version := by
  obtain ⟨version, hfind, h⟩ := exists_of_findVersion h
  dsimp only at h
  split at h
  · cases h
  · split at h
    · rename_i hvalid
      obtain ⟨current, target, hcurrent, htarget, hmem⟩ := exists_of_isValid hvalid
      rw [Text.strip_strip] at hcurrent
      exact ⟨version, current, target, hfind, hcurrent, htarget, hmem, (Except.ok.inj h).symm⟩
    · cases h

theorem exists_of_activateVersion {plan after : Plan} {activation : ActivatePlan}
    (h : plan.activateVersion activation = .ok after) : ∃ version,
      plan.version? activation.runPlanVersionId = some version ∧
      Text.strip version.governanceState = GovernanceState.approvedPendingActivation.text ∧
      after = (plan.supersedePrevious activation).applyActivation activation version := by
  obtain ⟨version, hfind, h⟩ := exists_of_findVersion h
  split at h
  · exact ⟨version, hfind, ‹_›, (Except.ok.inj h).symm⟩
  · cases h

theorem exists_of_deactivateVersion {plan after : Plan} {deactivation : DeactivatePlan}
    (h : plan.deactivateVersion deactivation = .ok after) : ∃ version,
      plan.version? deactivation.runPlanVersionId = some version ∧
      Text.strip version.governanceState = GovernanceState.deactivationRequested.text ∧
      after = plan.applyDeactivation deactivation version := by
  obtain ⟨version, hfind, h⟩ := exists_of_findVersion h
  split at h
  · exact ⟨version, hfind, ‹_›, (Except.ok.inj h).symm⟩
  · cases h

namespace Sound

variable {plan after : Plan}

theorem transitionVersion (h : Sound plan) {change : TransitionPlanVersion}
    (hspelled : Spelled change.targetState)
    (hne : Text.strip change.targetState ≠ GovernanceState.deactivated.text)
    (hafter : plan.transitionVersion change = .ok after) : Sound after := by
  obtain ⟨version, current, target, hfind, hcurrent, htarget, hmem, rfl⟩ :=
    exists_of_transitionVersion hafter
  have hstate : version.governanceState = current.text :=
    (h.spelled _ _ hfind).eq_text hcurrent (List.ne_nil_of_mem hmem)
  have hlive : target.live = current.live := by
    refine live_of_mem_allowedTransitions hmem ?_
    rintro rfl
    exact hne htarget
  have htargetLive : LiveState change.targetState ↔ target.live = true := by
    cases hcase : target.live with
    | false => exact iff_of_false (not_liveState htarget hcase) Bool.false_ne_true
    | true =>
      have hmoves : target.allowedTransitions ≠ [] := by
        rintro hnone
        cases target <;> cases hcase <;> cases hnone
      rw [hspelled.eq_text htarget hmoves, liveState_text, hcase]
  have hiff : LiveState change.targetState ↔ LiveState version.governanceState := by
    rw [htargetLive, hlive, hstate, liveState_text]
  refine h.of_moves ⟨rfl, rfl, rfl, rfl⟩ hfind ?_ hspelled hiff rfl ?_
  · rw [hstate, GovernanceState.strip_text]
  · show (if plan.currentActiveVersionId = none then _ else _) = _ ↔ _
    split
    · rename_i hnone
      refine iff_of_false (fun hactive => ?_) fun hsome => hsome hnone
      have hcurrent := (h.live _ _ hfind).mp (hiff.mp (.inl hactive))
      rw [hnone] at hcurrent
      cases hcurrent
    · rename_i hsome
      exact iff_of_true rfl hsome

/-- The previous active version is superseded, and no version may run. -/
theorem supersedePrevious (h : Sound plan) (hreplaceable : plan.Replaceable)
    {activation : ActivatePlan} {version : Version}
    (hfind : plan.version? activation.runPlanVersionId = some version)
    (hidle : ¬LiveState version.governanceState) :
    Recorded (plan.supersedePrevious activation) ∧ NoneLive (plan.supersedePrevious activation) ∧
      (plan.supersedePrevious activation).version? activation.runPlanVersionId = some version := by
  rw [Plan.supersedePrevious, Plan.previousActiveVersionId]
  cases hcurrent : plan.currentActiveVersionId with
  | none =>
    refine ⟨h.toRecorded, fun versionId v hv hlive => ?_, hfind⟩
    have hnone := (h.live versionId v hv).mp hlive
    rw [hcurrent] at hnone
    cases hnone
  | some previousId =>
    obtain ⟨hne, hstate⟩ := hreplaceable previousId hcurrent
    obtain ⟨previous, hprevious⟩ := h.current previousId hcurrent
    have hother : previousId ≠ activation.runPlanVersionId := by
      rintro rfl
      rw [hfind] at hprevious
      cases hprevious
      exact hidle ((h.live _ _ hfind).mpr hcurrent)
    have hactive : previous.governanceState = GovernanceState.active.text := by
      rcases (h.live previousId previous hprevious).mpr hcurrent with hactive | hrequested
      · exact hactive
      · exact absurd hrequested (hstate previous hprevious)
    rw [Option.filter_some, if_pos (decide_eq_true hne)]
    dsimp only
    rw [if_neg hother, hprevious]
    dsimp only
    generalize hafter : Plan.appendTransitionEvent _ _ = after
    have hmoves : ∃ event, Moves plan after previousId
        { previous.moved .superseded with reviewStatus := some "superseded" } event ∧
        event.fromState = some GovernanceState.active.text := by
      rw [← hafter]
      exact ⟨_, ⟨rfl, rfl, rfl, rfl⟩, rfl⟩
    obtain ⟨event, hmoves, hfrom⟩ := hmoves
    refine ⟨hmoves.recorded h.toRecorded ?_ (spelled_text .superseded),
      fun versionId v hv hlive => ?_, ?_⟩
    · rw [hfrom, hprevious, Option.map_some, hactive]
    · rcases hmoves.of_version? hv with ⟨-, rfl⟩ | ⟨hid, hv⟩
      · exact @not_liveState_text .superseded rfl hlive
      · have hsome := (h.live versionId v hv).mp hlive
        rw [hcurrent] at hsome
        exact hid (Option.some.inj hsome).symm
    · rw [hmoves.version?, if_neg hother, hfind]

theorem activateVersion (h : Sound plan) (hreplaceable : plan.Replaceable)
    {activation : ActivatePlan} (hafter : plan.activateVersion activation = .ok after) :
    Sound after := by
  obtain ⟨version, hfind, happroved, rfl⟩ := exists_of_activateVersion hafter
  have hstate : version.governanceState = GovernanceState.approvedPendingActivation.text :=
    (h.spelled _ _ hfind).eq_text happroved (List.cons_ne_nil _ _)
  have hidle : ¬LiveState version.governanceState := not_liveState happroved rfl
  obtain ⟨hrecorded, hnone, hsame⟩ := h.supersedePrevious hreplaceable hfind hidle
  have hmoves : ∃ event, Moves (plan.supersedePrevious activation)
      ((plan.supersedePrevious activation).applyActivation activation version)
      activation.runPlanVersionId (version.moved .active) event ∧
      event.fromState = some (Text.strip version.governanceState) :=
    ⟨_, ⟨rfl, rfl, rfl, rfl⟩, rfl⟩
  obtain ⟨event, hmoves, hfrom⟩ := hmoves
  refine ⟨hmoves.recorded hrecorded ?_ (spelled_text .active), ?_, ?_, ?_⟩
  · rw [hfrom, hsame, hstate, GovernanceState.strip_text, Option.map_some, hstate]
  · intro versionId v hv
    show _ ↔ some activation.runPlanVersionId = some versionId
    rcases hmoves.of_version? hv with ⟨rfl, rfl⟩ | ⟨hid, hv⟩
    · exact iff_of_true (.inl rfl) rfl
    · refine iff_of_false (hnone versionId v hv) fun hsome => ?_
      exact hid (Option.some.inj hsome).symm
  · intro versionId hid
    rw [hmoves.version?, if_pos (Option.some.inj hid)]
    exact ⟨_, rfl⟩
  · exact iff_of_true rfl nofun

theorem deactivateVersion (h : Sound plan) {deactivation : DeactivatePlan}
    (hafter : plan.deactivateVersion deactivation = .ok after) : Sound after := by
  obtain ⟨version, hfind, hrequested, rfl⟩ := exists_of_deactivateVersion hafter
  have hstate : version.governanceState = GovernanceState.deactivationRequested.text :=
    (h.spelled _ _ hfind).eq_text hrequested (List.cons_ne_nil _ _)
  have hcurrent : plan.currentActiveVersionId = some deactivation.runPlanVersionId :=
    (h.live _ _ hfind).mp (.inr hstate)
  have hmoves : ∃ event, Moves plan (plan.applyDeactivation deactivation version)
      deactivation.runPlanVersionId (version.moved .deactivated) event ∧
      event.fromState = some (Text.strip version.governanceState) :=
    ⟨_, ⟨rfl, rfl, rfl, rfl⟩, rfl⟩
  obtain ⟨event, hmoves, hfrom⟩ := hmoves
  refine ⟨hmoves.recorded h.toRecorded ?_ (spelled_text .deactivated), Accounted.idle ?_ ?_ ?_⟩
  · rw [hfrom, hfind, hstate, GovernanceState.strip_text, Option.map_some, hstate]
  · intro versionId v hv hlive
    rcases hmoves.of_version? hv with ⟨-, rfl⟩ | ⟨hid, hv⟩
    · exact @not_liveState_text .deactivated rfl hlive
    · have hsome := (h.live versionId v hv).mp hlive
      rw [hcurrent] at hsome
      exact hid (Option.some.inj hsome).symm
  · show (if plan.currentActiveVersionId.getD [] = deactivation.runPlanVersionId then none
      else plan.currentActiveVersionId) = none
    rw [hcurrent, Option.getD_some, if_pos rfl]
  · show GovernanceState.deactivated.text ≠ GovernanceState.active.text
    rw [Ne, GovernanceState.text_inj]
    decide

theorem recordDispatch (h : Sound plan) {dispatch : RecordPlanDispatch}
    (hafter : plan.recordDispatch dispatch = .ok after) : Sound after := by
  obtain ⟨version, hfind, hafter⟩ := exists_of_findVersion hafter
  split at hafter
  · rename_i hactive
    cases hafter
    have hstate : version.governanceState = GovernanceState.active.text :=
      (h.spelled _ _ hfind).eq_text hactive.1 (List.cons_ne_nil _ _)
    have hspelled : Spelled version.governanceState := h.spelled _ _ hfind
    refine h.of_moves ⟨(Assoc.update_of_find? hfind).symm, rfl, rfl, hstate.symm⟩ hfind ?_ hspelled
      Iff.rfl rfl h.status
    rw [hstate]
  · cases hafter

/-- The invariant rule of an operation. -/
theorem becomes {plans : Repository} {event : Text × Operation}
    (hplans : ∀ plan, plans.getPlan event.1 = some plan → Sound plan)
    (hcareful : Careful plans event) (h : event.2.Becomes (plans.getPlan event.1) after) :
    Sound after := by
  obtain ⟨runPlanId, operation⟩ := event
  cases operation with
  | create creation =>
    obtain ⟨-, rfl⟩ := h
    exact create hcareful.1 hcareful.2
  | createVersion creation =>
    obtain ⟨plan, hfind, rfl⟩ := h
    exact (hplans plan hfind).createVersion (hcareful plan hfind)
  | transition change =>
    obtain ⟨plan, hfind, hafter⟩ := h
    exact (hplans plan hfind).transitionVersion hcareful.1 hcareful.2 hafter
  | activate activation =>
    obtain ⟨plan, hfind, hafter⟩ := h
    exact (hplans plan hfind).activateVersion (hcareful plan hfind) hafter
  | deactivate deactivation =>
    obtain ⟨plan, hfind, hafter⟩ := h
    exact (hplans plan hfind).deactivateVersion hafter
  | recordDispatch dispatch =>
    obtain ⟨plan, hfind, hafter⟩ := h
    exact (hplans plan hfind).recordDispatch hafter

end Sound

/-! ### Runs -/

def AllSound (plans : Repository) : Prop :=
  ∀ runPlanId plan, plans.getPlan runPlanId = some plan → Sound plan

theorem AllSound.step {plans plans' : Repository} {event : Text × Operation}
    (h : AllSound plans) (hstep : Step plans event plans') (hcareful : Careful plans event) :
    AllSound plans' := by
  rw [Step] at hstep
  rcases event.2.run_perform event.1 plans with ⟨exc, hrun⟩ | ⟨after, hbecomes, hrun⟩
  · rw [hrun] at hstep
    rwa [hstep]
  · rw [hrun] at hstep
    have hafter : Sound after :=
      Sound.becomes (fun plan hfind => h event.1 plan hfind) hcareful hbecomes
    intro runPlanId plan hfind
    rw [hstep, Repository.getPlan, Assoc.find?_update] at hfind
    split at hfind
    · rwa [← Option.some.inj hfind]
    · exact h runPlanId plan hfind

/-- Every plan that careful operations lead to is lawful. -/
theorem run_plan_invariant {events : List (Text × Operation)} {plans : Repository}
    (h : Runs Step Careful [] events plans) {runPlanId : Text} {plan : Plan}
    (hfind : plans.getPlan runPlanId = some plan) : Lawful plan := by
  have hall : AllSound plans := h.invariant nofun fun _ _ _ => AllSound.step
  exact (hall runPlanId plan hfind).lawful

/-! ### Two histories of a plan -/

def next (plans : Repository) (event : Text × Operation) : Repository :=
  ((event.2.perform event.1).run plans).2

def emptyContent : VersionContent where
  gxSuiteSelection := []
  suiteId := none
  suiteVersion := none
  suiteSnapshot := none
  executionContractSnapshot := none
  scheduleDefinition := []

/-- A plan whose first version is a draft. -/
def createDraft : Text × Operation :=
  ("plan", .create {
    runPlanVersionId := "first"
    workspaceId := "default"
    scopeSelector := []
    planningMode := "single_suite"
    status := GovernanceState.draft.text
    createdBy := none
    content := emptyContent
    effectiveFrom := none
    validationStatus := none
    reviewStatus := none
    supersedesVersionId := none
    correlationId := none })

/-- A second version. -/
def addVersion : Text × Operation :=
  ("plan", .createVersion {
    runPlanVersionId := "second"
    content := emptyContent
    createdBy := none
    effectiveFrom := none
    validationStatus := none
    reviewStatus := none
    supersedesVersionId := some "first"
    correlationId := none })

/-- A transition of a version. -/
def moveTo (versionId : String) (target : GovernanceState) : Text × Operation :=
  ("plan", .transition {
    runPlanVersionId := versionId.toList
    targetState := target.text
    updatedBy := none
    effectiveFrom := none
    correlationId := none })

/-- The activation of a version that is a draft. -/
def goLive (versionId : String) : List (Text × Operation) :=
  [moveTo versionId .activationRequested, moveTo versionId .approvedPendingActivation,
    ("plan", .activate {
      runPlanVersionId := versionId.toList
      activatedBy := none
      dispatchedRunId := none
      correlationId := none })]

def replacement : List (Text × Operation) :=
  createDraft :: goLive "first" ++ addVersion :: goLive "second"

def overtaking : List (Text × Operation) :=
  createDraft :: goLive "first" ++ addVersion :: moveTo "first" .deactivationRequested ::
    goLive "second"

def planAfter (events : List (Text × Operation)) : Option Plan :=
  Repository.getPlan (events.foldl next []) "plan"

theorem histories : Transition.MeetAll next Careful replacement [] ∧
    (planAfter replacement).any (fun plan =>
      plan.currentActiveVersionId = some "second".toList) = true ∧
    Transition.MeetAll next (fun _ _ => True) overtaking [] ∧
    (planAfter overtaking).any (fun plan =>
      decide ¬Chained (plan.eventsOf "first".toList)) = true := by
  decide +kernel

/-- The first version is superseded from `active` after its deactivation was requested. -/
theorem run_plan_invariant_counterexample :
    ¬∀ (events : List (Text × Operation)) (plans : Repository),
      Runs Step (fun _ _ => True) [] events plans →
        ∀ runPlanId plan, plans.getPlan runPlanId = some plan → Lawful plan := by
  intro h
  obtain ⟨plan, hplan, hbroken⟩ := (Option.any_eq_true _ _).mp histories.2.2.2
  have hreached : Runs Step (fun _ _ => True) [] overtaking (overtaking.foldl next []) :=
    Runs.of_meetAll (fun _ _ => rfl) histories.2.2.1
  have hlawful := h overtaking _ hreached "plan".toList plan hplan
  exact of_decide_eq_true hbroken (hlawful.chained "first".toList)

theorem run_plan_invariant_sample : ∃ plan, planAfter replacement = some plan ∧
    plan.currentActiveVersionId = some "second".toList ∧ Lawful plan := by
  obtain ⟨plan, hplan, hcurrent⟩ := (Option.any_eq_true _ _).mp histories.2.1
  have hreached : Runs Step Careful [] replacement (replacement.foldl next []) :=
    Runs.of_meetAll (fun _ _ => rfl) histories.1
  exact ⟨plan, hplan, of_decide_eq_true hcurrent, run_plan_invariant hreached hplan⟩

end RunPlans

end DqMadeEasy
