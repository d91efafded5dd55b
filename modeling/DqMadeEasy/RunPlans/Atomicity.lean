import DqMadeEasy.RunPlans.Invariant
import DqMadeEasy.RunPlans.UseCases

/-!
# Governance calls that raise

A transition that raises after the repository moved the version leaves its event behind: the way back
adds another, and the table has no way back to a draft. An activation that raises after the dispatcher
was asked leaves a run. Both are atomic exactly when nothing fails after the first effect.
-/

namespace DqMadeEasy

namespace RunPlans

open Artifacts Effect Runs Worker

/-! ### What a caller can see of a version -/

/-- The governance state, the validation status and the events of a version. -/
structure Record where
  governanceState : Text
  validationStatus : Text
  events : List TransitionEvent

def recordOf (plans : Repository) (runPlanId versionId : Text) : Option Record :=
  (plans.getPlan runPlanId).bind fun plan => (plan.version? versionId).map fun version =>
    ⟨version.governanceState, version.validationStatus, plan.eventsOf versionId⟩

def eventCount (plans : Repository) (runPlanId versionId : Text) : ℕ :=
  (plans.getPlan runPlanId).elim 0 fun plan => (plan.eventsOf versionId).length

theorem getPlan_update (plans : Repository) (runPlanId : Text) (after : Plan) :
    Repository.getPlan (Assoc.update runPlanId (fun _ => after) plans) runPlanId = some after := by
  rw [Repository.getPlan, Assoc.find?_update, if_pos rfl]

theorem eventCount_congr {plans plans' : Repository} {runPlanId versionId : Text} {plan : Plan}
    {version : Version} (hplan : plans.getPlan runPlanId = some plan)
    (hversion : plan.version? versionId = some version)
    (h : recordOf plans' runPlanId versionId = recordOf plans runPlanId versionId) :
    eventCount plans' runPlanId versionId = eventCount plans runPlanId versionId := by
  rw [recordOf, recordOf, hplan, Option.bind_some, hversion, Option.map_some] at h
  obtain ⟨plan', hplan', hrecord⟩ := Option.bind_eq_some_iff.mp h
  obtain ⟨version', -, hrecord⟩ := Option.map_eq_some_iff.mp hrecord
  have hevents : plan'.eventsOf versionId = plan.eventsOf versionId :=
    congrArg Record.events hrecord
  rw [eventCount, eventCount, hplan, hplan', Option.elim_some, Option.elim_some, hevents]

theorem eventCount_applyTransition {plans : Repository} {runPlanId : Text} {plan : Plan}
    {version : Version} {change : TransitionPlanVersion}
    (hplan : plans.getPlan runPlanId = some plan) :
    eventCount (Assoc.update runPlanId (fun _ => plan.applyTransition change version) plans)
        runPlanId change.runPlanVersionId =
      eventCount plans runPlanId change.runPlanVersionId + 1 := by
  have hevents : ∃ event : TransitionEvent, event.runPlanVersionId = change.runPlanVersionId ∧
      (plan.applyTransition change version).transitionEvents = plan.transitionEvents ++ [event] :=
    ⟨_, rfl, rfl⟩
  obtain ⟨event, hid, hevents⟩ := hevents
  rw [eventCount, eventCount, getPlan_update, hplan, Option.elim_some, Option.elim_some,
    eventsOf_append hevents, if_pos hid, List.length_append, List.length_singleton]

theorem eventCount_le_transition (plans : Repository) (runPlanId : Text)
    (change : TransitionPlanVersion) :
    eventCount plans runPlanId change.runPlanVersionId ≤
      eventCount ((transitionPlanVersion runPlanId change).run plans).2 runPlanId
        change.runPlanVersionId := by
  rcases run_onPlan runPlanId (fun plan => plan.transitionVersion change) plans with
    ⟨exc, hrun⟩ | ⟨plan, after, hplan, hafter, hrun⟩
  · rw [transitionPlanVersion, hrun]
  · obtain ⟨version, current, target, -, -, -, -, rfl⟩ := exists_of_transitionVersion hafter
    rw [transitionPlanVersion, hrun, eventCount_applyTransition hplan]
    exact Nat.le_succ _

/-! ### The lookups of a request -/

section Lookups

variable {c : Circumstances} {w w' : World} {plan : Plan} {version : Version}

theorem reads_getPlanOr404 (c : Circumstances) (runPlanId : Text) :
    Reads (getPlanOr404 c runPlanId) := by
  refine Reads.bind (Part.reads_on (Fate.reads_meet _ fun _ => rfl)) fun plan => ?_
  exact reads_ofExcept _

theorem run_getPlanOr404 {runPlanId : Text} (hserved : c.getPlan = .served)
    (hplan : w.plans.getPlan runPlanId = some plan) :
    (getPlanOr404 c runPlanId).run w = (.ok plan, w) := by
  rw [getPlanOr404, hserved, run_bind_ok (Part.run_on_read _)]
  show (Option.elim (w.plans.getPlan runPlanId) _ _, w) = _
  rw [hplan, Option.elim_some]

theorem of_run_getPlanOr404 {runPlanId : Text}
    (h : (getPlanOr404 c runPlanId).run w = (.ok plan, w')) :
    c.getPlan = .served ∧ w.plans.getPlan runPlanId = some plan := by
  obtain ⟨found, between, hfound, hplan⟩ := ok_of_run_bind h
  obtain ⟨hserved, hget⟩ := Part.of_run_on_read hfound
  refine ⟨hserved, hget.trans ?_⟩
  cases found with
  | none => cases (ok_of_run_ofExcept hplan).1
  | some plan' =>
    have heq : plan' = plan := Except.ok.inj (ok_of_run_ofExcept hplan).1
    rw [heq]

theorem getVersionOr404_eq_ok {versionId : Text} :
    getVersionOr404 plan versionId = .ok version ↔ plan.version? versionId = some version := by
  rw [getVersionOr404]
  cases plan.version? versionId with
  | none => exact ⟨nofun, nofun⟩
  | some found =>
    rw [Option.elim_some, Option.some.injEq, Except.ok.injEq]

end Lookups

theorem findVersion_eq_ok {plan : Plan} {versionId : Text} {version : Version}
    (h : plan.version? versionId = some version) : plan.findVersion versionId = .ok version := by
  rw [Plan.findVersion, h]
  rfl

/-! ### Transitions -/

/-- A version that a transition may move: what is checked before the repository is asked. -/
structure Admits (c : Circumstances) (w : World) (command : TransitionCommand) (plan : Plan)
    (version : Version) : Prop where
  served : c.getPlan = .served
  planFound : w.plans.getPlan command.runPlanId = some plan
  versionFound : plan.version? command.runPlanVersionId = some version
  valid : isValidRunPlanVersionTransition version.governanceState command.targetState = true
  unrequested : ∀ requestType ∈ command.requestType, c.listApprovals = .served ∧
    (w.approvals.approvals.map Prod.snd).any (command.isPendingApproval requestType) = false

section Transition

variable {c : Circumstances} {w w' : World} {command : TransitionCommand} {plan : Plan}
  {version : Version}

theorem reads_checkTransition (c : Circumstances) (command : TransitionCommand) :
    Reads (checkTransition c command) := by
  refine Reads.bind (reads_getPlanOr404 c _) fun plan => ?_
  refine Reads.bind (reads_ofExcept _) fun version => ?_
  refine Reads.bind (reads_ofExcept _) fun _ => ?_
  cases command.requestType with
  | none => exact fun _ => rfl
  | some requestType =>
    refine Reads.bind (Part.reads_on (Fate.reads_meet _ fun _ => rfl)) fun approvals => ?_
    exact reads_ofExcept _

theorem Admits.run_checkTransition (h : Admits c w command plan version) :
    (checkTransition c command).run w = (.ok (plan, version), w) := by
  rw [checkTransition, run_bind_ok (run_getPlanOr404 h.served h.planFound),
    getVersionOr404_eq_ok.mpr h.versionFound, run_bind_ok (run_ofExcept _ _), if_pos h.valid,
    run_bind_ok (run_ofExcept _ _)]
  cases hrequest : command.requestType with
  | none => rfl
  | some requestType =>
    obtain ⟨hserved, hnone⟩ := h.unrequested requestType hrequest
    dsimp only
    rw [hserved, run_bind_ok (Part.run_on_read _)]
    show (ite (List.any (w.approvals.approvals.map Prod.snd) _ = true) _ _, w) = _
    rw [hnone, if_neg Bool.false_ne_true]

theorem admits_of_run_checkTransition
    (h : (checkTransition c command).run w = (.ok (plan, version), w')) :
    Admits c w command plan version := by
  obtain ⟨plan', hplan, h⟩ := (reads_getPlanOr404 c _).ok_of_run_bind h
  obtain ⟨version', hversion, h⟩ := (reads_ofExcept _).ok_of_run_bind h
  obtain ⟨_, hvalid, h⟩ := (reads_ofExcept _).ok_of_run_bind h
  obtain ⟨hserved, hplan⟩ := of_run_getPlanOr404 hplan
  have hversion : plan'.version? command.runPlanVersionId = some version' :=
    getVersionOr404_eq_ok.mp (ok_of_run_ofExcept hversion).1
  have hvalid : isValidRunPlanVersionTransition version'.governanceState command.targetState =
      true := by
    by_contra hinvalid
    rw [if_neg hinvalid] at hvalid
    cases (ok_of_run_ofExcept hvalid).1
  cases hrequest : command.requestType with
  | none =>
    rw [hrequest] at h
    cases h
    refine ⟨hserved, hplan, hversion, hvalid, fun other hother => ?_⟩
    rw [hrequest] at hother
    cases hother
  | some requestType =>
    rw [hrequest] at h
    obtain ⟨approvals, hlist, h⟩ :=
      (Part.reads_on (Fate.reads_meet _ fun _ => rfl)).ok_of_run_bind h
    obtain ⟨hlisted, hlist⟩ := Part.of_run_on_read hlist
    have hlist : w.approvals.approvals.map Prod.snd = approvals := hlist
    obtain ⟨h, -⟩ := ok_of_run_ofExcept h
    split at h
    · cases h
    · rename_i hnone
      cases h
      refine ⟨hserved, hplan, hversion, hvalid, fun other hother => ?_⟩
      rw [hrequest] at hother
      cases hother
      exact ⟨hlisted, hlist ▸ Bool.eq_false_iff.mpr hnone⟩

/-- What is checked is what the repository checks again. -/
theorem Admits.run_transitionPlanVersion (h : Admits c w command plan version) :
    (transitionPlanVersion command.runPlanId command.transition).run w.plans =
      (.ok (plan.applyTransition command.transition version),
        Assoc.update command.runPlanId
          (fun _ => plan.applyTransition command.transition version) w.plans) := by
  obtain ⟨current, target, hcurrent, htarget, hmem⟩ := exists_of_isValid h.valid
  have hne : Text.strip version.governanceState ≠ [] := by
    rw [hcurrent]
    cases current <;> decide
  have hvalid : isValidRunPlanVersionTransition (Text.strip version.governanceState)
      command.targetState = true := by
    have hvalid := h.valid
    rwa [isValidRunPlanVersionTransition, movesFrom, GovernanceState.ofText?,
      ← Text.strip_strip version.governanceState] at hvalid
  have hchange : plan.transitionVersion command.transition =
      .ok (plan.applyTransition command.transition version) := by
    have hfind : plan.findVersion command.transition.runPlanVersionId = .ok version :=
      findVersion_eq_ok h.versionFound
    rw [Plan.transitionVersion, hfind, ok_bind, if_neg hne]
    exact if_pos hvalid
  rw [transitionPlanVersion, onPlan, run_ofState, h.planFound]
  dsimp only
  rw [hchange]

theorem Admits.eventCount_transition (h : Admits c w command plan version) :
    eventCount w.plans command.runPlanId command.runPlanVersionId <
      eventCount ((transitionPlanVersion command.runPlanId command.transition).run w.plans).2
        command.runPlanId command.runPlanVersionId := by
  have hcount : eventCount (Assoc.update command.runPlanId
        (fun _ => plan.applyTransition command.transition version) w.plans)
      command.runPlanId command.runPlanVersionId =
        eventCount w.plans command.runPlanId command.runPlanVersionId + 1 :=
    eventCount_applyTransition h.planFound
  rw [h.run_transitionPlanVersion]
  exact hcount ▸ Nat.lt_succ_self _

section Requests

variable [PyRuntime] [PyNumerals]

/-- The approvals repository stores the request: the plan has no id but blanks, or the version has
one. -/
def Acceptable (c : Circumstances) (command : TransitionCommand) : Prop :=
  c.createApproval = .served ∧
    (Text.strip command.runPlanId = [] ∨ Text.strip command.runPlanVersionId ≠ [])

theorem optionalText_str (id : Text) : Approvals.optionalText (.scalar (.str id)) =
    if Text.strip id = [] then none else some (Text.strip id) := by
  have hstripped : (Json.scalar (.str id)).strippedText = Text.strip id := by
    cases id with
    | nil => rfl
    | cons ch rest => rfl
  rw [Approvals.optionalText, hstripped]
  cases Text.strip id <;> rfl

/-- What the approvals repository makes of a request. -/
theorem run_createApproval (command : TransitionCommand) (plan : Plan) (draw : Approvals.Draw)
    (requestType : Text) (actorId : Option Text) (store : Approvals.Store) :
    (∃ created, ((Approvals.createApproval draw (command.approvalPayload plan requestType)
        actorId).run store).1 = .ok created) ↔
      Text.strip command.runPlanId = [] ∨ Text.strip command.runPlanVersionId ≠ [] := by
  have hkeys : Approvals.rejectCamelCaseApprovalKeys (command.approvalPayload plan requestType)
      "Approval creation payload" = .ok () := rfl
  have hplan : (Approvals.createdApproval draw (command.approvalPayload plan requestType)
      actorId).gxRunPlanId = Approvals.optionalText (.scalar (.str command.runPlanId)) := rfl
  have hversion : (Approvals.createdApproval draw (command.approvalPayload plan requestType)
      actorId).gxRunPlanVersionId =
        Approvals.optionalText (.scalar (.str command.runPlanVersionId)) := rfl
  rw [Approvals.createApproval, run_ofState, hkeys]
  dsimp only
  rw [hplan, hversion, optionalText_str, optionalText_str]
  by_cases hplanId : Text.strip command.runPlanId = []
  · simp [hplanId]
  · by_cases hversionId : Text.strip command.runPlanVersionId = []
    · simp [hplanId, hversionId]
    · simp [hplanId, hversionId]

/-- The call of the approvals repository, as its caller sees it. -/
theorem exists_run_asked (c : Circumstances) (command : TransitionCommand) (plan : Plan)
    (requestType : Text) (w : World) :
    ∃ outcome store, (approvalsPart.on id (c.createApproval.meet (Approvals.createApproval c.draw
        (command.approvalPayload plan requestType) command.updatedBy))).run w =
          (outcome, { w with approvals := store }) ∧
      ((∃ created, outcome = .ok created) ↔ Acceptable c command) := by
  have hstored := run_createApproval command plan c.draw requestType command.updatedBy
    w.approvals
  cases hfate : c.createApproval with
  | served =>
    refine ⟨_, _, rfl, ?_⟩
    rw [Fate.served_meet, Acceptable, hfate, ← hstored]
    rw [show approvalsPart.get w = w.approvals from rfl]
    generalize Prod.fst (run _ w.approvals) = stored
    cases stored with
    | ok created => exact iff_of_true ⟨created, rfl⟩ ⟨rfl, created, rfl⟩
    | error exc => exact iff_of_false nofun fun h => nomatch h.2
  | refused exc =>
    refine ⟨_, _, rfl, iff_of_false nofun fun h => ?_⟩
    cases hfate.symm.trans h.1
  | interrupted exc =>
    refine ⟨_, _, rfl, iff_of_false nofun fun h => ?_⟩
    cases hfate.symm.trans h.1

theorem Acceptable.run_requestApproval (h : Acceptable c command) (requestType : Text) (row : Plan)
    (w : World) :
    ∃ w', (requestApproval c command plan version requestType row).run w = (.ok row, w') := by
  obtain ⟨outcome, store, hrun, hstored⟩ := exists_run_asked c command plan requestType w
  obtain ⟨created, rfl⟩ := hstored.mpr h
  rw [requestApproval, run_bind_ok (run_attempt _ _), hrun]
  exact ⟨_, rfl⟩

/-- A request that is not accepted raises, and removes no event of the version. -/
theorem exists_run_requestApproval (h : ¬Acceptable c command) (requestType : Text) (row : Plan)
    (w : World) :
    ∃ e w', (requestApproval c command plan version requestType row).run w = (.error e, w') ∧
      eventCount w.plans command.runPlanId command.runPlanVersionId ≤
        eventCount w'.plans command.runPlanId command.runPlanVersionId := by
  obtain ⟨outcome, store, hrun, hstored⟩ := exists_run_asked c command plan requestType w
  rw [requestApproval, run_bind_ok (run_attempt _ _), hrun]
  cases outcome with
  | ok created => exact absurd (hstored.mp ⟨created, rfl⟩) h
  | error exc =>
    dsimp only
    split
    · have hle : eventCount w.plans command.runPlanId command.runPlanVersionId ≤
          eventCount ((plansPart.on ApiError.raised (c.compensation.meet (transitionPlanVersion
            command.runPlanId (command.compensation version.governanceState)))).run
              { w with approvals := store }).2.plans
            command.runPlanId command.runPlanVersionId := by
        rcases c.compensation.snd_meet (transitionPlanVersion command.runPlanId
          (command.compensation version.governanceState)) w.plans with hsame | heffect
        · exact (congrArg (eventCount · _ _) hsame).ge
        · exact (eventCount_le_transition w.plans command.runPlanId _).trans_eq
            (congrArg (eventCount · _ _) heffect).symm
      rw [run_bind]
      split
      · rename_i row' w' hback
        rw [hback] at hle
        exact ⟨_, _, rfl, hle⟩
      · rename_i e w' hback
        rw [hback] at hle
        exact ⟨_, _, rfl, hle⟩
    · exact ⟨_, _, rfl, le_rfl⟩

def TransitionAtomic (c : Circumstances) (w : World) (command : TransitionCommand) : Prop :=
  ∀ e w', (transitionGxRunPlanVersionGovernanceState c command).run w = (.error e, w') →
    recordOf w'.plans command.runPlanId command.runPlanVersionId =
      recordOf w.plans command.runPlanId command.runPlanVersionId

/-- Nothing fails after the repository has moved the version. -/
def TransitionClean (c : Circumstances) (command : TransitionCommand) : Prop :=
  (∃ exc, c.transition = .refused exc) ∨
    c.transition = .served ∧ (command.requestType = none ∨ Acceptable c command)

theorem transitionAtomic_of_not_admits (h : ¬∃ plan version, Admits c w command plan version) :
    TransitionAtomic c w command := by
  intro e w' hrun
  have hstate := reads_checkTransition c command w
  rw [transitionGxRunPlanVersionGovernanceState, run_bind] at hrun
  cases hcheck : (checkTransition c command).run w with
  | mk outcome between =>
    rw [hcheck] at hstate hrun
    cases hstate
    cases outcome with
    | ok checked => exact absurd ⟨_, _, admits_of_run_checkTransition hcheck⟩ h
    | error _ => rw [(Prod.mk.inj hrun).2]

theorem Admits.not_atomic (h : Admits c w command plan version) {e : ApiError}
    (hrun : (transitionGxRunPlanVersionGovernanceState c command).run w = (.error e, w'))
    (hgrown : eventCount w.plans command.runPlanId command.runPlanVersionId <
      eventCount w'.plans command.runPlanId command.runPlanVersionId) :
    ¬TransitionAtomic c w command := by
  intro hatomic
  exact hgrown.ne' (eventCount_congr h.planFound h.versionFound (hatomic e w' hrun))

/-- A transition that passes its checks is atomic when nothing fails after its effect. -/
theorem Admits.transitionAtomic_iff (h : Admits c w command plan version) :
    TransitionAtomic c w command ↔ TransitionClean c command := by
  have hgrown := h.eventCount_transition
  have hmoved := h.run_transitionPlanVersion
  cases hfate : c.transition with
  | refused exc =>
    refine iff_of_true (fun e w' hrun => ?_) (.inl ⟨exc, hfate⟩)
    rw [transitionGxRunPlanVersionGovernanceState, run_bind_ok h.run_checkTransition, hfate,
      run_bind_error (Part.run_on_error (Fate.run_refused _ _ _))] at hrun
    rw [← (Prod.mk.inj hrun).2]
    rfl
  | interrupted exc =>
    have hrun : (transitionGxRunPlanVersionGovernanceState c command).run w =
        (.error (.raised exc), { w with plans := ((transitionPlanVersion command.runPlanId
          command.transition).run w.plans).2 }) := by
      rw [transitionGxRunPlanVersionGovernanceState, run_bind_ok h.run_checkTransition, hfate,
        run_bind_error (Part.run_on_error (Fate.run_interrupted _ _ _))]
      rfl
    refine iff_of_false (h.not_atomic hrun hgrown) ?_
    rintro (⟨_, hrefused⟩ | ⟨hserved, -⟩)
    · cases hfate.symm.trans hrefused
    · cases hfate.symm.trans hserved
  | served =>
    have hclean : TransitionClean c command ↔
        command.requestType = none ∨ Acceptable c command := by
      rw [TransitionClean, hfate]
      simp
    rw [hclean]
    have hrun : (transitionGxRunPlanVersionGovernanceState c command).run w =
        (command.requestType.elim (pure (plan.applyTransition command.transition version))
          fun requestType => requestApproval c command plan version requestType
            (plan.applyTransition command.transition version)).run
            { w with plans := ((transitionPlanVersion command.runPlanId command.transition).run
              w.plans).2 } := by
      rw [transitionGxRunPlanVersionGovernanceState, run_bind_ok h.run_checkTransition, hfate,
        run_bind_ok (Part.run_on_ok hmoved), hmoved]
      cases command.requestType <;> rfl
    cases hrequest : command.requestType with
    | none =>
      refine iff_of_true (fun e w' hraised => ?_) (.inl rfl)
      rw [hrun, hrequest] at hraised
      cases (Prod.mk.inj hraised).1
    | some requestType =>
      rw [hrequest, Option.elim_some] at hrun
      by_cases haccepted : Acceptable c command
      · refine iff_of_true (fun e w' hraised => ?_) (.inr haccepted)
        obtain ⟨w'', hok⟩ := haccepted.run_requestApproval requestType _ _
        rw [hrun, hok] at hraised
        cases (Prod.mk.inj hraised).1
      · obtain ⟨e, w', hraised, hle⟩ := exists_run_requestApproval haccepted requestType _ _
        refine iff_of_false (h.not_atomic (hrun.trans hraised) (hgrown.trans_le hle)) ?_
        rintro (hnone | haccepted')
        · cases hnone
        · exact haccepted haccepted'

end Requests

end Transition

/-! ### Activations -/

section Activation

variable [PyRuntime] [PyNumerals] [PyDatetime] {readers : Readers} {c : Circumstances}
  {w w' : World} {command : ActivateCommand} {plan : Plan} {version : Version}
  {request : ActivationRequest}

/-- A version that an activation may dispatch: what is checked before the dispatcher is asked. -/
structure Passes (readers : Readers) (c : Circumstances) (w : World) (command : ActivateCommand)
    (plan : Plan) (version : Version) (request : ActivationRequest) : Prop where
  served : c.getPlan = .served
  planFound : w.plans.getPlan command.runPlanId = some plan
  versionFound : plan.version? command.runPlanVersionId = some version
  requested : activationRequest readers command version = .ok request

theorem reads_checkActivation (readers : Readers) (c : Circumstances) (command : ActivateCommand) :
    Reads (checkActivation readers c command) := by
  refine Reads.bind (reads_getPlanOr404 c _) fun plan => ?_
  exact Reads.bind (reads_ofExcept _) fun version => reads_ofExcept _

theorem Passes.run_checkActivation (h : Passes readers c w command plan version request) :
    (checkActivation readers c command).run w = (.ok request, w) := by
  rw [checkActivation, run_bind_ok (run_getPlanOr404 h.served h.planFound),
    getVersionOr404_eq_ok.mpr h.versionFound, run_bind_ok (run_ofExcept _ _), h.requested]
  rfl

theorem passes_of_run_checkActivation
    (h : (checkActivation readers c command).run w = (.ok request, w')) :
    ∃ plan version, Passes readers c w command plan version request := by
  obtain ⟨plan, hplan, h⟩ := (reads_getPlanOr404 c _).ok_of_run_bind h
  obtain ⟨version, hversion, h⟩ := (reads_ofExcept _).ok_of_run_bind h
  obtain ⟨hserved, hplan⟩ := of_run_getPlanOr404 hplan
  exact ⟨plan, version, hserved, hplan,
    getVersionOr404_eq_ok.mp (ok_of_run_ofExcept hversion).1, (ok_of_run_ofExcept h).1⟩

/-- What the repository checks is checked before. -/
theorem Passes.run_activatePlan (h : Passes readers c w command plan version request)
    (payload : DispatchPayload) :
    ∃ after plans, (activatePlan command.runPlanId (command.activation payload)).run w.plans =
      (.ok after, plans) := by
  have happroved : version.governanceState = GovernanceState.approvedPendingActivation.text := by
    by_contra hne
    have hrequested := h.requested
    rw [activationRequest, if_pos hne] at hrequested
    cases hrequested
  have hchange : ∃ after, plan.activateVersion (command.activation payload) = .ok after := by
    have hfind : plan.findVersion (command.activation payload).runPlanVersionId = .ok version :=
      findVersion_eq_ok h.versionFound
    rw [Plan.activateVersion, hfind, ok_bind, happroved, if_pos (GovernanceState.strip_text _)]
    exact ⟨_, rfl⟩
  obtain ⟨after, hchange⟩ := hchange
  rw [activatePlan, onPlan, run_ofState, h.planFound]
  dsimp only
  rw [hchange]
  exact ⟨_, _, rfl⟩

/-- An activation that raises dispatched no run, and leaves the plan as it was. -/
def ActivationAtomic (readers : Readers) (c : Circumstances) (w : World)
    (command : ActivateCommand) : Prop :=
  ∀ e w', (activateGxRunPlanVersion readers c command).run w = (.error e, w') →
    w'.dispatched = w.dispatched ∧
      w'.plans.getPlan command.runPlanId = w.plans.getPlan command.runPlanId

/-- Nothing fails after the dispatcher has dispatched the run. -/
def ActivationClean (readers : Readers) (c : Circumstances) : Prop :=
  (∃ e, c.dispatch = .refused e) ∨
    c.dispatch = .served ∧ (∃ payload, readers.asDispatchPayload c.dispatchPayload = .ok payload) ∧
      c.activation = .served

/-- An activation that does not pass its checks leaves everything. -/
theorem activationAtomic_of_not_passes
    (h : ¬∃ plan version request, Passes readers c w command plan version request) :
    ActivationAtomic readers c w command := by
  intro e w' hrun
  have hstate := reads_checkActivation readers c command w
  rw [activateGxRunPlanVersion, run_bind] at hrun
  cases hcheck : (checkActivation readers c command).run w with
  | mk outcome between =>
    rw [hcheck] at hstate hrun
    cases hstate
    cases outcome with
    | ok request =>
      obtain ⟨plan, version, hpasses⟩ := passes_of_run_checkActivation hcheck
      exact absurd ⟨plan, version, request, hpasses⟩ h
    | error _ =>
      rw [(Prod.mk.inj hrun).2]
      exact ⟨rfl, rfl⟩

theorem not_activationAtomic {e : ApiError}
    (hrun : (activateGxRunPlanVersion readers c command).run w = (.error e, w'))
    (hdispatched : w'.dispatched = w.dispatched ++ [request]) :
    ¬ActivationAtomic readers c w command := by
  intro hatomic
  have hsame := (hatomic e w' hrun).1
  rw [hdispatched] at hsame
  exact List.cons_ne_nil _ _ (List.append_right_eq_self.mp hsame)

/-- An activation that passes its checks is atomic when nothing fails after its run is dispatched. -/
theorem Passes.activationAtomic_iff (h : Passes readers c w command plan version request) :
    ActivationAtomic readers c w command ↔ ActivationClean readers c := by
  cases hfate : c.dispatch with
  | refused e =>
    refine iff_of_true (fun e' w' hrun => ?_) (.inl ⟨e, hfate⟩)
    rw [activateGxRunPlanVersion, run_bind_ok h.run_checkActivation, dispatchRun, hfate,
      run_bind_error (Fate.run_refused _ _ _)] at hrun
    rw [← (Prod.mk.inj hrun).2]
    exact ⟨rfl, rfl⟩
  | interrupted e =>
    have hrun : (activateGxRunPlanVersion readers c command).run w =
        (.error e, { w with dispatched := w.dispatched ++ [request] }) := by
      rw [activateGxRunPlanVersion, run_bind_ok h.run_checkActivation, dispatchRun, hfate,
        run_bind_error (Fate.run_interrupted _ _ _)]
      rfl
    refine iff_of_false (not_activationAtomic hrun rfl) ?_
    rintro (⟨_, hrefused⟩ | ⟨hserved, -⟩)
    · cases hfate.symm.trans hrefused
    · cases hfate.symm.trans hserved
  | served =>
    have hclean : ActivationClean readers c ↔
        (∃ payload, readers.asDispatchPayload c.dispatchPayload = .ok payload) ∧
          c.activation = .served := by
      rw [ActivationClean, hfate]
      simp
    rw [hclean]
    have hdispatch : (dispatchRun c request).run w =
        (.ok c.dispatchPayload, { w with dispatched := w.dispatched ++ [request] }) := by
      rw [dispatchRun, hfate]
      rfl
    have hrun : (activateGxRunPlanVersion readers c command).run w =
        (do
          let payload ← Effect.ofExcept (readers.asDispatchPayload c.dispatchPayload)
          let activated ← plansPart.on ApiError.raised (c.activation.meet
            (activatePlan command.runPlanId (command.activation payload)))
          return (activated, payload) : Effect World ApiError (Plan × DispatchPayload)).run
            { w with dispatched := w.dispatched ++ [request] } := by
      rw [activateGxRunPlanVersion, run_bind_ok h.run_checkActivation, run_bind_ok hdispatch]
    cases hpayload : readers.asDispatchPayload c.dispatchPayload with
    | error e =>
      rw [hpayload, run_bind_error (run_ofExcept _ _)] at hrun
      refine iff_of_false (not_activationAtomic hrun rfl) ?_
      rintro ⟨⟨payload, hok⟩, -⟩
      cases hok
    | ok payload =>
      rw [hpayload, run_bind_ok (run_ofExcept _ _)] at hrun
      cases hactivation : c.activation with
      | served =>
        refine iff_of_true (fun e w' hraised => ?_) ⟨⟨payload, rfl⟩, rfl⟩
        obtain ⟨after, plans, hactivated⟩ := h.run_activatePlan payload
        rw [hactivation, run_bind_ok (Part.run_on_ok hactivated), hraised] at hrun
        cases (Prod.mk.inj hrun).1
      | refused exc =>
        rw [hactivation, run_bind_error (Part.run_on_error (Fate.run_refused _ _ _))] at hrun
        refine iff_of_false (not_activationAtomic hrun rfl) ?_
        rintro ⟨-, hserved⟩
        cases hserved
      | interrupted exc =>
        rw [hactivation, run_bind_error (Part.run_on_error (Fate.run_interrupted _ _ _))] at hrun
        refine iff_of_false (not_activationAtomic hrun rfl) ?_
        rintro ⟨-, hserved⟩
        cases hserved

/-- A governance call is atomic unless something fails after its first effect. -/
theorem run_plan_governance_atomic_iff (readers : Readers) (c : Circumstances) (w : World)
    (transition : TransitionCommand) (activation : ActivateCommand) :
    (TransitionAtomic c w transition ↔
      ((∃ plan version, Admits c w transition plan version) → TransitionClean c transition)) ∧
    (ActivationAtomic readers c w activation ↔
      ((∃ plan version request, Passes readers c w activation plan version request) →
        ActivationClean readers c)) := by
  constructor
  · by_cases hadmits : ∃ plan version, Admits c w transition plan version
    · obtain ⟨plan, version, h⟩ := hadmits
      rw [h.transitionAtomic_iff]
      exact ⟨fun hclean _ => hclean, fun hclean => hclean ⟨plan, version, h⟩⟩
    · exact iff_of_true (transitionAtomic_of_not_admits hadmits) fun h => absurd h hadmits
  · by_cases hpasses : ∃ plan version request, Passes readers c w activation plan version request
    · obtain ⟨plan, version, request, h⟩ := hpasses
      rw [h.activationAtomic_iff]
      exact ⟨fun hclean _ => hclean, fun hclean => hclean ⟨plan, version, request, h⟩⟩
    · exact iff_of_true (activationAtomic_of_not_passes hpasses) fun h => absurd h hpasses

end Activation

/-! ### A request that the approvals repository refuses -/

local instance sampleRuntimeAtomicity : PyRuntime := .ascii (fun _ => .nan) (fun _ => [])

local instance sampleNumeralsAtomicity : PyNumerals := ⟨fun _ => none, fun _ => none, id⟩

local instance sampleDatetimeAtomicity : PyDatetime := .epoch

/-- The approvals cannot be stored; all else is served. -/
def approvalsDown : Circumstances where
  getPlan := .served
  listApprovals := .served
  transition := .served
  createApproval := .refused (.builtin "RuntimeError" "approvals are down")
  compensation := .served
  dispatch := .served
  activation := .served
  draw := ⟨"approval", "2026-01-01T00:00:00Z"⟩
  dispatchPayload := []

def draftWorld : World where
  plans := next [] createDraft
  approvals := ⟨[], []⟩
  dispatched := []

/-- The request to activate the draft. -/
def requestActivation : TransitionCommand where
  runPlanId := "plan"
  runPlanVersionId := "first"
  targetState := GovernanceState.activationRequested.text
  updatedBy := none
  effectiveFrom := none
  correlationId := none

/-- The draft stays requested: the table has no way back to it. -/
theorem run_plan_governance_atomic_counterexample :
    ¬∀ (readers : Readers) (c : Circumstances) (w : World) (transition : TransitionCommand)
        (activation : ActivateCommand),
      TransitionAtomic c w transition ∧ ActivationAtomic readers c w activation := by
  intro h
  have hstate : ((transitionGxRunPlanVersionGovernanceState approvalsDown requestActivation).run
      draftWorld).1.isOk = false ∧
      ((recordOf ((transitionGxRunPlanVersionGovernanceState approvalsDown requestActivation).run
        draftWorld).2.plans "plan" "first").map Record.governanceState) =
          some GovernanceState.activationRequested.text ∧
      (recordOf draftWorld.plans "plan" "first").map Record.governanceState =
        some GovernanceState.draft.text := by
    decide +kernel
  obtain ⟨hraised, hafter, hbefore⟩ := hstate
  let readers : Readers := ⟨fun _ => .error (httpError 422 []), fun _ => .error (httpError 422 []),
    fun _ => .error (httpError 422 [])⟩
  have hatomic := (h readers approvalsDown draftWorld requestActivation
    ⟨[], [], none, none⟩).1
  cases houtcome : ((transitionGxRunPlanVersionGovernanceState approvalsDown
      requestActivation).run draftWorld).1 with
  | ok row =>
    rw [houtcome] at hraised
    cases hraised
  | error e =>
    have hrecord := congrArg (Option.map Record.governanceState)
      (hatomic e _ (Prod.ext houtcome rfl))
    have hsame : some GovernanceState.activationRequested.text = some GovernanceState.draft.text :=
      hafter.symm.trans (hrecord.trans hbefore)
    cases GovernanceState.text_inj.mp (Option.some.inj hsame)

end RunPlans

end DqMadeEasy
