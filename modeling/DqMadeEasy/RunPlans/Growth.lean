import DqMadeEasy.RunPlans.Invariant

/-!
# What no operation takes back

The operations of the repository change the states and the statuses of versions. What a version was
created with stays, the versions keep their order, and the transition events are only appended to.
-/

namespace DqMadeEasy

namespace RunPlans

open Transition

/-- What a version was created with, apart from the dates and statuses that reviews set. -/
def Version.origin (version : Version) : VersionContent × Option Text × Option Text :=
  (version.content, version.supersedesVersionId, version.createdBy)

namespace Plan

def origins (plan : Plan) : List (Text × VersionContent × Option Text × Option Text) :=
  Assoc.mapValues Version.origin plan.versions

/-- The fields that the creation of a plan sets for good. -/
def fixed (plan : Plan) : Text × Dict × Text × Option Text :=
  (plan.workspaceId, plan.scopeSelector, plan.planningMode, plan.createdBy)

end Plan

/-- The versions that were created, as a history says. -/
def created (events : List TransitionEvent) : List Text :=
  (events.filter fun event => event.fromState.isNone).map TransitionEvent.runPlanVersionId

/-- A plan and what becomes of it: the versions that are new are those that the new events say were
created. -/
structure Extends (plan after : Plan) : Prop where
  fixed : after.fixed = plan.fixed
  grown : ∃ origins events, after.origins = plan.origins ++ origins ∧
    after.transitionEvents = plan.transitionEvents ++ events ∧
    origins.map Prod.fst = created events

variable {plan after : Plan}

theorem created_append (events events' : List TransitionEvent) :
    created (events ++ events') = created events ++ created events' := by
  rw [created, List.filter_append, List.map_append, created, created]

theorem created_singleton {event : TransitionEvent} (h : event.fromState.isNone = false) :
    created [event] = [] := by
  rw [created, List.filter_singleton, h]
  rfl

theorem keys_versions (plan : Plan) : Assoc.keys plan.versions = plan.origins.map Prod.fst := by
  rw [Plan.origins, Assoc.mapValues, List.map_map]
  rfl

namespace Extends

theorem refl (plan : Plan) : Extends plan plan :=
  ⟨rfl, [], [], (List.append_nil _).symm, (List.append_nil _).symm, rfl⟩

theorem trans {middle : Plan} (h : Extends plan middle) (h' : Extends middle after) :
    Extends plan after := by
  obtain ⟨origins, events, horigins, hevents, hcreated⟩ := h.grown
  obtain ⟨origins', events', horigins', hevents', hcreated'⟩ := h'.grown
  refine ⟨h'.fixed.trans h.fixed, origins ++ origins', events ++ events', ?_, ?_, ?_⟩
  · rw [horigins', horigins, List.append_assoc]
  · rw [hevents', hevents, List.append_assoc]
  · rw [List.map_append, hcreated, hcreated', created_append]

/-- A version is replaced by one of the same origin. -/
theorem of_moves {versionId : Text} {before version : Version} {event : TransitionEvent}
    (h : Moves plan after versionId version event) (hfind : plan.version? versionId = some before)
    (horigin : version.origin = before.origin) (hfrom : event.fromState.isNone = false)
    (hfixed : after.fixed = plan.fixed) : Extends plan after := by
  refine ⟨hfixed, [], [event], ?_, h.events, (created_singleton hfrom).symm⟩
  rw [Plan.origins, h.versions, Assoc.mapValues_update, horigin, List.append_nil]
  refine Assoc.update_of_find? ?_
  rw [Assoc.find?_mapValues, ← Plan.version?, hfind, Option.map_some]

theorem createVersion (plan : Plan) (creation : CreatePlanVersion) :
    Extends plan (plan.createVersion creation) :=
  ⟨rfl, [(creation.runPlanVersionId, creation.version.origin)], _, List.map_append, rfl, rfl⟩

theorem transitionVersion {change : TransitionPlanVersion}
    (h : plan.transitionVersion change = .ok after) : Extends plan after := by
  obtain ⟨version, -, -, hfind, -, -, -, rfl⟩ := exists_of_transitionVersion h
  refine of_moves ⟨rfl, rfl, rfl, rfl⟩ hfind ?_ rfl rfl
  rw [Version.transitioned, Version.origin]
  split_ifs <;> rfl

theorem activateVersion {activation : ActivatePlan}
    (h : plan.activateVersion activation = .ok after) : Extends plan after := by
  obtain ⟨version, hfind, -, rfl⟩ := exists_of_activateVersion h
  have hprevious : Extends plan (plan.supersedePrevious activation) ∧
      (plan.supersedePrevious activation).version? activation.runPlanVersionId = some version := by
    unfold Plan.supersedePrevious
    split
    · exact ⟨refl plan, hfind⟩
    · rename_i previousId _
      split
      · exact ⟨refl plan, hfind⟩
      · rename_i hne
        split
        · exact ⟨refl plan, hfind⟩
        · rename_i previous hprevious
          refine ⟨of_moves ⟨rfl, rfl, rfl, rfl⟩ hprevious rfl rfl rfl, ?_⟩
          rw [Plan.version?_appendTransitionEvent, Plan.version?_putVersion, if_neg hne, hfind]
  exact hprevious.1.trans (of_moves ⟨rfl, rfl, rfl, rfl⟩ hprevious.2 rfl rfl rfl)

theorem deactivateVersion {deactivation : DeactivatePlan}
    (h : plan.deactivateVersion deactivation = .ok after) : Extends plan after := by
  obtain ⟨version, hfind, -, rfl⟩ := exists_of_deactivateVersion h
  exact of_moves ⟨rfl, rfl, rfl, rfl⟩ hfind rfl rfl rfl

theorem recordDispatch {dispatch : RecordPlanDispatch}
    (h : plan.recordDispatch dispatch = .ok after) : Extends plan after := by
  obtain ⟨version, -, h⟩ := exists_of_findVersion h
  split at h
  · cases h
    exact ⟨rfl, [], _, (List.append_nil _).symm, rfl, rfl⟩
  · cases h

end Extends

theorem Operation.Becomes.extends {operation : Operation}
    (h : operation.Becomes (some plan) after) : Extends plan after := by
  cases operation with
  | create creation => exact absurd h.1 (Option.some_ne_none plan)
  | createVersion creation =>
    obtain ⟨_, hplan, rfl⟩ := h
    cases hplan
    exact .createVersion plan creation
  | transition change =>
    obtain ⟨_, hplan, hafter⟩ := h
    cases hplan
    exact .transitionVersion hafter
  | activate activation =>
    obtain ⟨_, hplan, hafter⟩ := h
    cases hplan
    exact .activateVersion hafter
  | deactivate deactivation =>
    obtain ⟨_, hplan, hafter⟩ := h
    cases hplan
    exact .deactivateVersion hafter
  | recordDispatch dispatch =>
    obtain ⟨_, hplan, hafter⟩ := h
    cases hplan
    exact .recordDispatch hafter

/-- What was not stored is stored by a creation. -/
theorem Operation.Becomes.created_of_none {operation : Operation}
    (h : operation.Becomes none after) : Assoc.keys after.versions = created after.transitionEvents := by
  cases operation with
  | create creation =>
    obtain ⟨-, rfl⟩ := h
    rfl
  | _ =>
    obtain ⟨_, hnone, -⟩ := h
    cases hnone

theorem Step.extends {plans plans' : Repository} {event : Text × Operation}
    (h : Step plans event plans') {runPlanId : Text} (hplan : plans.getPlan runPlanId = some plan) :
    ∃ after, plans'.getPlan runPlanId = some after ∧ Extends plan after := by
  rw [Step] at h
  rcases event.2.run_perform event.1 plans with ⟨_, hrun⟩ | ⟨after, hafter, hrun⟩
  · rw [h, hrun]
    exact ⟨plan, hplan, .refl plan⟩
  · rw [h, hrun, Repository.getPlan, Assoc.find?_update]
    split
    · rename_i hid
      rw [hid, hplan] at hafter
      exact ⟨after, rfl, hafter.extends⟩
    · exact ⟨plan, hplan, .refl plan⟩

/-- Whatever is asked of the repository, and in whichever order, a plan keeps its versions with what
they were created with, and its history. -/
theorem plans_extend {plans plans' : Repository} {events : List (Text × Operation)}
    (h : Runs Step (fun _ _ => True) plans events plans') {runPlanId : Text}
    (hplan : plans.getPlan runPlanId = some plan) :
    ∃ after, plans'.getPlan runPlanId = some after ∧ Extends plan after := by
  refine h.invariant (I := fun plans' => ∃ after, plans'.getPlan runPlanId = some after ∧
    Extends plan after) ⟨plan, hplan, .refl plan⟩ ?_
  rintro s e s' ⟨middle, hmiddle, hextends⟩ hstep -
  obtain ⟨after, hafter, hextends'⟩ := hstep.extends hmiddle
  exact ⟨after, hafter, hextends.trans hextends'⟩

theorem plans_extend_sample : ∃ plan after, planAfter [createDraft] = some plan ∧
    planAfter [createDraft, addVersion] = some after ∧ Extends plan after := by
  have hrun : Runs Step (fun _ _ => True) ([createDraft].foldl next []) [addVersion]
      ([createDraft, addVersion].foldl next []) := .one rfl trivial
  obtain ⟨plan, hplan⟩ := Option.isSome_iff_exists.mp
    (show (planAfter [createDraft]).isSome = true by decide)
  obtain ⟨after, hafter, hextends⟩ := plans_extend hrun hplan
  exact ⟨plan, after, hplan, hafter, hextends⟩

/-- The history of a plan names every version of it when it is created, in the order of the
versions. -/
theorem versions_created {plans : Repository} {events : List (Text × Operation)}
    (h : Runs Step (fun _ _ => True) [] events plans) {runPlanId : Text}
    (hplan : plans.getPlan runPlanId = some plan) :
    Assoc.keys plan.versions = created plan.transitionEvents := by
  refine h.invariant (I := fun plans => ∀ runPlanId plan, plans.getPlan runPlanId = some plan →
    Assoc.keys plan.versions = created plan.transitionEvents) (fun _ _ h => by cases h) ?_
    runPlanId plan hplan
  intro s e s' hs hstep _ runPlanId after hafter
  cases hbefore : s.getPlan runPlanId with
  | some before =>
    obtain ⟨after', hafter', hextends⟩ := hstep.extends hbefore
    rw [hafter] at hafter'
    cases hafter'
    obtain ⟨origins, events, horigins, hevents, hcreated⟩ := hextends.grown
    rw [keys_versions, horigins, List.map_append, ← keys_versions, hs _ _ hbefore, hcreated, hevents,
      created_append]
  | none =>
    rw [Step] at hstep
    rcases e.2.run_perform e.1 s with ⟨_, hrun⟩ | ⟨stored, hstored, hrun⟩
    · rw [hstep, hrun, hbefore] at hafter
      cases hafter
    · rw [hstep, hrun, Repository.getPlan, Assoc.find?_update] at hafter
      split at hafter
      · rename_i hid
        cases hafter
        rw [hid, hbefore] at hstored
        exact hstored.created_of_none
      · cases hbefore.symm.trans hafter

theorem versions_created_sample : ∃ plan, planAfter overtaking = some plan ∧
    Assoc.keys plan.versions = created plan.transitionEvents := by
  obtain ⟨plan, hplan, -⟩ := (Option.any_eq_true _ _).mp histories.2.2.2
  exact ⟨plan, hplan, versions_created (Runs.of_meetAll (fun _ _ => rfl) histories.2.2.1) hplan⟩

end RunPlans

end DqMadeEasy
