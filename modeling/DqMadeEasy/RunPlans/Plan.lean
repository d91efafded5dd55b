import DqMadeEasy.Logic.Effect
import DqMadeEasy.Worker.Error

/-!
# Run plans

A run plan has versions, each in a governance state, and names one of them as its current active
version. A method of the repository finds the plan and the version and checks the state before its
first write, so that it writes everything or nothing. The dictionaries of plans, of versions and of
transition events have the same keys, and are one table here.
-/

namespace DqMadeEasy

namespace RunPlans

open Worker

/-! ### Governance states -/

/-- The governance states that the code names. -/
inductive GovernanceState where
  | draft | pendingValidation | validationFailed | pendingReview | approvedPendingActivation
  | cancelled | inactive | activationRequested | active | deactivationRequested | deactivated
  | superseded
  deriving DecidableEq, Repr

namespace GovernanceState

/-- The state as it is stored. -/
def text : GovernanceState → Text
  | .draft => "draft"
  | .pendingValidation => "pending_validation"
  | .validationFailed => "validation_failed"
  | .pendingReview => "pending_review"
  | .approvedPendingActivation => "approved_pending_activation"
  | .cancelled => "cancelled"
  | .inactive => "inactive"
  | .activationRequested => "activation-requested"
  | .active => "active"
  | .deactivationRequested => "deactivation-requested"
  | .deactivated => "deactivated"
  | .superseded => "superseded"

def all : List GovernanceState :=
  [.draft, .pendingValidation, .validationFailed, .pendingReview, .approvedPendingActivation,
    .cancelled, .inactive, .activationRequested, .active, .deactivationRequested, .deactivated,
    .superseded]

theorem mem_all (state : GovernanceState) : state ∈ all := by
  cases state <;> simp [all]

/-- The stored states are stripped and differ. -/
theorem text_spec : (∀ a ∈ all, Text.strip a.text = a.text) ∧ (all.map text).Nodup := by
  decide +kernel

@[simp] theorem strip_text (state : GovernanceState) : Text.strip state.text = state.text :=
  text_spec.1 state (mem_all state)

theorem text_inj {a b : GovernanceState} : a.text = b.text ↔ a = b := by
  constructor
  · exact List.inj_on_of_nodup_map text_spec.2 (mem_all a) (mem_all b)
  · rintro rfl
    rfl

def ofText? (t : Text) : Option GovernanceState := all.find? fun state => state.text = Text.strip t

theorem ofText?_eq_some {t : Text} {state : GovernanceState} :
    ofText? t = some state ↔ Text.strip t = state.text := by
  constructor
  · intro h
    exact (of_decide_eq_true (List.find?_some h :)).symm
  · intro h
    cases hfind : ofText? t with
    | none =>
      have hne := List.find?_eq_none.mp hfind state (mem_all state)
      exact absurd (decide_eq_true h.symm) hne
    | some state' =>
      have htext : state'.text = Text.strip t := of_decide_eq_true (List.find?_some hfind :)
      rw [text_inj.mp (htext.trans h)]

@[simp] theorem ofText?_text (state : GovernanceState) : ofText? state.text = some state :=
  ofText?_eq_some.mpr (strip_text state)

/-- `RUN_PLAN_VERSION_ALLOWED_TRANSITIONS`. -/
def allowedTransitions : GovernanceState → List GovernanceState
  | .draft => [.pendingValidation, .activationRequested]
  | .validationFailed => [.pendingValidation, .cancelled]
  | .pendingValidation => [.validationFailed, .pendingReview, .approvedPendingActivation]
  | .pendingReview => [.approvedPendingActivation, .cancelled]
  | .approvedPendingActivation => [.cancelled]
  | .inactive => [.activationRequested]
  | .active => [.deactivationRequested]
  | .activationRequested => [.approvedPendingActivation, .inactive]
  | .deactivationRequested => [.deactivated, .active]
  | .cancelled | .deactivated | .superseded => []

/-- The plan version may run. -/
def live : GovernanceState → Bool
  | .active | .deactivationRequested => true
  | _ => false

end GovernanceState

def movesFrom (state : Text) : List GovernanceState :=
  (GovernanceState.ofText? state).elim [] GovernanceState.allowedTransitions

def isValidRunPlanVersionTransition (currentState targetState : Text) : Bool :=
  (GovernanceState.ofText? targetState).any fun target => decide (target ∈ movesFrom currentState)

/-- What a valid transition leads from and to. -/
theorem exists_of_isValid {currentState targetState : Text}
    (h : isValidRunPlanVersionTransition currentState targetState = true) :
    ∃ current target, Text.strip currentState = GovernanceState.text current ∧
      Text.strip targetState = GovernanceState.text target ∧
      target ∈ current.allowedTransitions := by
  obtain ⟨target, htarget, hmem⟩ := Option.any_eq_true _ _ |>.mp h
  have hmem : target ∈ movesFrom currentState := of_decide_eq_true hmem
  rw [movesFrom] at hmem
  cases hcurrent : GovernanceState.ofText? currentState with
  | none =>
    rw [hcurrent] at hmem
    cases hmem
  | some current =>
    rw [hcurrent] at hmem
    exact ⟨current, target, GovernanceState.ofText?_eq_some.mp hcurrent,
      GovernanceState.ofText?_eq_some.mp htarget, hmem⟩

/-! ### Plans -/

/-- What a version runs: the fields that the repository copies and returns. -/
structure VersionContent where
  gxSuiteSelection : Dict
  suiteId : Option Text
  suiteVersion : Option ℤ
  suiteSnapshot : Option Dict
  executionContractSnapshot : Option Dict
  scheduleDefinition : Dict

/-- A version of a plan. -/
structure Version where
  governanceState : Text
  content : VersionContent
  validationStatus : Text
  reviewStatus : Option Text
  effectiveFrom : Option Text
  supersedesVersionId : Option Text
  createdBy : Option Text

def Version.moved (version : Version) (state : GovernanceState) : Version :=
  { version with governanceState := state.text }

@[simp] theorem Version.moved_governanceState (version : Version) (state : GovernanceState) :
    (version.moved state).governanceState = state.text := rfl

/-- An entry of the transition history of a plan. -/
structure TransitionEvent where
  runPlanVersionId : Text
  action : String
  fromState : Option Text
  toState : Text
  actorId : Option Text
  correlationId : Option Text
  effectiveFrom : Option Text
  details : Dict

/-- A plan with its versions and its transition events, in the order of their creation. -/
structure Plan where
  workspaceId : Text
  scopeSelector : Dict
  planningMode : Text
  currentActiveVersionId : Option Text
  status : Text
  createdBy : Option Text
  activatedBy : Option Text
  lastDispatchedRunId : Option Text
  versions : List (Text × Version)
  transitionEvents : List TransitionEvent

namespace Plan

def version? (plan : Plan) (versionId : Text) : Option Version :=
  Assoc.find? plan.versions versionId

def putVersion (plan : Plan) (versionId : Text) (version : Version) : Plan :=
  { plan with versions := Assoc.update versionId (fun _ => version) plan.versions }

def appendTransitionEvent (plan : Plan) (event : TransitionEvent) : Plan :=
  { plan with transitionEvents := plan.transitionEvents ++ [event] }

theorem version?_putVersion (plan : Plan) (versionId : Text) (version : Version) (other : Text) :
    (plan.putVersion versionId version).version? other =
      if versionId = other then some version else plan.version? other :=
  Assoc.find?_update versionId (fun _ => version) plan.versions other

@[simp] theorem version?_appendTransitionEvent (plan : Plan) (event : TransitionEvent)
    (versionId : Text) :
    (plan.appendTransitionEvent event).version? versionId = plan.version? versionId := rfl

end Plan

def valueError (message : Text) : PyError :=
  .mk .exception "builtins" "ValueError" message none none

/-- `f"GX run plan version '{run_plan_version_id}' {problem}"`. -/
def versionError (versionId : Text) (problem : String) : PyError :=
  valueError ("GX run plan version '" ++ versionId ++ "' " ++ problem.toList)

/-- `f"GX run plan '{run_plan_id}' {problem}"`. -/
def planError (planId : Text) (problem : String) : PyError :=
  valueError ("GX run plan '" ++ planId ++ "' " ++ problem.toList)

def Plan.findVersion (plan : Plan) (versionId : Text) : Except PyError Version :=
  (plan.version? versionId).elim (.error (versionError versionId "not found")) .ok

/-! ### Creation -/

/-- The arguments of `create_plan`. -/
structure CreatePlan where
  runPlanVersionId : Text
  workspaceId : Text
  scopeSelector : Dict
  planningMode : Text
  status : Text
  createdBy : Option Text
  content : VersionContent
  effectiveFrom : Option Text
  validationStatus : Option Text
  reviewStatus : Option Text
  supersedesVersionId : Option Text
  correlationId : Option Text

/-- The arguments of `create_plan_version`. -/
structure CreatePlanVersion where
  runPlanVersionId : Text
  content : VersionContent
  createdBy : Option Text
  effectiveFrom : Option Text
  validationStatus : Option Text
  reviewStatus : Option Text
  supersedesVersionId : Option Text
  correlationId : Option Text

/-- `validation_status or "not_requested"`. -/
def initialValidationStatus : Option Text → Text
  | some (c :: cs) => c :: cs
  | _ => "not_requested"

def optValue (t : Option Text) : Json := t.elim .null fun t => .scalar (.str t)

/-- The version that `create_plan` stores. -/
def CreatePlan.version (create : CreatePlan) : Version where
  governanceState := create.status
  content := create.content
  validationStatus := initialValidationStatus create.validationStatus
  reviewStatus := create.reviewStatus
  effectiveFrom := create.effectiveFrom
  supersedesVersionId := create.supersedesVersionId
  createdBy := create.createdBy

/-- The plan that `create_plan` stores. -/
def CreatePlan.plan (create : CreatePlan) : Plan where
  workspaceId := create.workspaceId
  scopeSelector := create.scopeSelector
  planningMode := create.planningMode
  currentActiveVersionId := none
  status := create.status
  createdBy := create.createdBy
  activatedBy := none
  lastDispatchedRunId := none
  versions := [(create.runPlanVersionId, create.version)]
  transitionEvents := [{
    runPlanVersionId := create.runPlanVersionId
    action := "created"
    fromState := none
    toState := create.status
    actorId := create.createdBy
    correlationId := create.correlationId
    effectiveFrom := create.effectiveFrom
    details := [("planning_mode", .scalar (.str create.planningMode)),
      ("workspace_id", .scalar (.str create.workspaceId)),
      ("supersedes_version_id", optValue create.supersedesVersionId)] }]

/-- The version that `create_plan_version` stores. -/
def CreatePlanVersion.version (create : CreatePlanVersion) : Version where
  governanceState := GovernanceState.draft.text
  content := create.content
  validationStatus := initialValidationStatus create.validationStatus
  reviewStatus := create.reviewStatus
  effectiveFrom := create.effectiveFrom
  supersedesVersionId := create.supersedesVersionId
  createdBy := create.createdBy

/-- `create_plan_version`, of a plan. The new version is appended, also when its id is not new. -/
def Plan.createVersion (plan : Plan) (create : CreatePlanVersion) : Plan :=
  { plan with
    status := if plan.currentActiveVersionId = none then GovernanceState.draft.text
      else plan.status
    versions := plan.versions ++ [(create.runPlanVersionId, create.version)]
    transitionEvents := plan.transitionEvents ++ [{
      runPlanVersionId := create.runPlanVersionId
      action := "version_created"
      fromState := none
      toState := GovernanceState.draft.text
      actorId := create.createdBy
      correlationId := create.correlationId
      effectiveFrom := create.effectiveFrom
      details := [("supersedes_version_id", optValue create.supersedesVersionId)] }] }

/-! ### Transitions -/

/-- The arguments of `transition_plan_version`. -/
structure TransitionPlanVersion where
  runPlanVersionId : Text
  targetState : Text
  updatedBy : Option Text
  effectiveFrom : Option Text
  correlationId : Option Text

/-- The version after a transition. The statuses depend on the target as it is spelled. -/
def Version.transitioned (version : Version) (transition : TransitionPlanVersion) : Version :=
  let target := transition.targetState
  let recorded : Version :=
    if target = GovernanceState.pendingValidation.text then
      { version with validationStatus := "pending", reviewStatus := none }
    else if target = GovernanceState.validationFailed.text then
      { version with validationStatus := "failed", reviewStatus := none }
    else if target = GovernanceState.pendingReview.text then
      { version with validationStatus := "passed", reviewStatus := some "pending" }
    else if target = GovernanceState.approvedPendingActivation.text then
      { version with
        validationStatus := "passed"
        reviewStatus := some "approved"
        effectiveFrom := transition.effectiveFrom.or version.effectiveFrom }
    else if target = GovernanceState.cancelled.text then
      { version with reviewStatus := some "cancelled" }
    else version
  { recorded with governanceState := target }

@[simp] theorem Version.transitioned_governanceState (version : Version)
    (transition : TransitionPlanVersion) :
    (version.transitioned transition).governanceState = transition.targetState := rfl

/-- The plan after a transition of a version. -/
def Plan.applyTransition (plan : Plan) (transition : TransitionPlanVersion) (version : Version) :
    Plan :=
  let target := transition.targetState
  ({ plan with
      status := if plan.currentActiveVersionId = none then target
        else GovernanceState.active.text }.putVersion transition.runPlanVersionId
          (version.transitioned transition)).appendTransitionEvent {
    runPlanVersionId := transition.runPlanVersionId
    action := "transitioned"
    fromState := some (Text.strip version.governanceState)
    toState := target
    actorId := transition.updatedBy
    correlationId := transition.correlationId
    effectiveFrom := transition.effectiveFrom
    details := [("target_state", .scalar (.str target))] }

/-- `transition_plan_version`, of a plan. -/
def Plan.transitionVersion (plan : Plan) (transition : TransitionPlanVersion) :
    Except PyError Plan := do
  let version ← plan.findVersion transition.runPlanVersionId
  let currentState := Text.strip version.governanceState
  if currentState = [] then
    .error (versionError transition.runPlanVersionId "is missing governance state")
  else if isValidRunPlanVersionTransition currentState transition.targetState = true then
    .ok (plan.applyTransition transition version)
  else .error (valueError ("Invalid GX run plan version transition '" ++ currentState ++
    "' -> '" ++ transition.targetState ++ "'"))

/-! ### Activation -/

/-- The arguments of `activate_plan`. -/
structure ActivatePlan where
  runPlanVersionId : Text
  activatedBy : Option Text
  dispatchedRunId : Option Text
  correlationId : Option Text

/-- `str(plan.get("currentActiveVersionId") or "") or None`. -/
def Plan.previousActiveVersionId (plan : Plan) : Option Text :=
  plan.currentActiveVersionId.filter fun versionId => versionId ≠ []

/-- The plan with its previous active version superseded. Its event starts in `active`. -/
def Plan.supersedePrevious (plan : Plan) (activate : ActivatePlan) : Plan :=
  match plan.previousActiveVersionId with
  | none => plan
  | some previousId =>
    if previousId = activate.runPlanVersionId then plan
    else match plan.version? previousId with
      | none => plan
      | some previous =>
        (plan.putVersion previousId { previous.moved .superseded with
          reviewStatus := some "superseded" }).appendTransitionEvent {
            runPlanVersionId := previousId
            action := "superseded"
            fromState := some GovernanceState.active.text
            toState := GovernanceState.superseded.text
            actorId := activate.activatedBy
            correlationId := activate.correlationId
            effectiveFrom := none
            details := [("superseded_by", .scalar (.str activate.runPlanVersionId))] }

/-- The plan with a version active. -/
def Plan.applyActivation (plan : Plan) (activate : ActivatePlan) (version : Version) : Plan :=
  ({ plan with
      status := GovernanceState.active.text
      currentActiveVersionId := some activate.runPlanVersionId
      activatedBy := activate.activatedBy
      lastDispatchedRunId := activate.dispatchedRunId }.putVersion activate.runPlanVersionId
        (version.moved .active)).appendTransitionEvent {
    runPlanVersionId := activate.runPlanVersionId
    action := "activated"
    fromState := some (Text.strip version.governanceState)
    toState := GovernanceState.active.text
    actorId := activate.activatedBy
    correlationId := activate.correlationId
    effectiveFrom := none
    details := [("dispatched_run_id", optValue activate.dispatchedRunId)] }

/-- `activate_plan`, of a plan. -/
def Plan.activateVersion (plan : Plan) (activate : ActivatePlan) : Except PyError Plan := do
  let version ← plan.findVersion activate.runPlanVersionId
  if Text.strip version.governanceState = GovernanceState.approvedPendingActivation.text then
    .ok ((plan.supersedePrevious activate).applyActivation activate version)
  else .error (versionError activate.runPlanVersionId "is not approved for activation")

/-! ### Deactivation and dispatches -/

/-- The arguments of `deactivate_plan`. -/
structure DeactivatePlan where
  runPlanVersionId : Text
  deactivatedBy : Option Text
  correlationId : Option Text

/-- The plan with a version deactivated. -/
def Plan.applyDeactivation (plan : Plan) (deactivate : DeactivatePlan) (version : Version) : Plan :=
  ({ plan with
      status := GovernanceState.deactivated.text
      currentActiveVersionId :=
        if plan.currentActiveVersionId.getD [] = deactivate.runPlanVersionId then none
        else plan.currentActiveVersionId }.putVersion deactivate.runPlanVersionId
          (version.moved .deactivated)).appendTransitionEvent {
    runPlanVersionId := deactivate.runPlanVersionId
    action := "deactivated"
    fromState := some (Text.strip version.governanceState)
    toState := GovernanceState.deactivated.text
    actorId := deactivate.deactivatedBy
    correlationId := deactivate.correlationId
    effectiveFrom := none
    details := [] }

/-- `deactivate_plan`, of a plan. -/
def Plan.deactivateVersion (plan : Plan) (deactivate : DeactivatePlan) : Except PyError Plan := do
  let version ← plan.findVersion deactivate.runPlanVersionId
  if Text.strip version.governanceState = GovernanceState.deactivationRequested.text then
    .ok (plan.applyDeactivation deactivate version)
  else .error (versionError deactivate.runPlanVersionId "is not pending deactivation")

/-- The arguments of `record_plan_dispatch`. -/
structure RecordPlanDispatch where
  runPlanVersionId : Text
  dispatchedRunId : Text
  dispatchedBy : Option Text
  correlationId : Option Text
  details : Dict

/-- `record_plan_dispatch`, of a plan. -/
def Plan.recordDispatch (plan : Plan) (dispatch : RecordPlanDispatch) : Except PyError Plan := do
  let version ← plan.findVersion dispatch.runPlanVersionId
  if Text.strip version.governanceState = GovernanceState.active.text ∧
      plan.currentActiveVersionId.getD [] = dispatch.runPlanVersionId then
    .ok ({ plan with lastDispatchedRunId := some dispatch.dispatchedRunId }.appendTransitionEvent {
      runPlanVersionId := dispatch.runPlanVersionId
      action := "dispatched"
      fromState := some GovernanceState.active.text
      toState := GovernanceState.active.text
      actorId := dispatch.dispatchedBy
      correlationId := dispatch.correlationId
      effectiveFrom := none
      details := Dict.merge
        [("dispatched_run_id", .scalar (.str dispatch.dispatchedRunId))] dispatch.details })
  else .error (versionError dispatch.runPlanVersionId "is not active")

/-! ### The repository -/

abbrev Repository := List (Text × Plan)

def Repository.getPlan (plans : Repository) (runPlanId : Text) : Option Plan :=
  Assoc.find? plans runPlanId

def createPlan (runPlanId : Text) (create : CreatePlan) : Effect Repository PyError Plan :=
  Effect.ofState fun plans =>
    match plans.getPlan runPlanId with
    | some _ => (.error (planError runPlanId "already exists"), plans)
    | none => (.ok create.plan, Assoc.update runPlanId (fun _ => create.plan) plans)

/-- A method of one plan. -/
def onPlan (runPlanId : Text) (change : Plan → Except PyError Plan) :
    Effect Repository PyError Plan :=
  Effect.ofState fun plans =>
    match plans.getPlan runPlanId with
    | none => (.error (planError runPlanId "not found"), plans)
    | some plan =>
      match change plan with
      | .error exc => (.error exc, plans)
      | .ok after => (.ok after, Assoc.update runPlanId (fun _ => after) plans)

def createPlanVersion (runPlanId : Text) (create : CreatePlanVersion) :
    Effect Repository PyError Plan :=
  onPlan runPlanId fun plan => .ok (plan.createVersion create)

def transitionPlanVersion (runPlanId : Text) (transition : TransitionPlanVersion) :
    Effect Repository PyError Plan :=
  onPlan runPlanId fun plan => plan.transitionVersion transition

def activatePlan (runPlanId : Text) (activate : ActivatePlan) : Effect Repository PyError Plan :=
  onPlan runPlanId fun plan => plan.activateVersion activate

def deactivatePlan (runPlanId : Text) (deactivate : DeactivatePlan) :
    Effect Repository PyError Plan :=
  onPlan runPlanId fun plan => plan.deactivateVersion deactivate

def recordPlanDispatch (runPlanId : Text) (dispatch : RecordPlanDispatch) :
    Effect Repository PyError Plan :=
  onPlan runPlanId fun plan => plan.recordDispatch dispatch

/-- A method that returns stored what it returns, and one that raises stored nothing. -/
theorem run_onPlan (runPlanId : Text) (change : Plan → Except PyError Plan) (plans : Repository) :
    ((∃ exc, ((onPlan runPlanId change).run plans) = (.error exc, plans)) ∨
      ∃ plan after, plans.getPlan runPlanId = some plan ∧ change plan = .ok after ∧
        (onPlan runPlanId change).run plans =
          (.ok after, Assoc.update runPlanId (fun _ => after) plans)) := by
  rw [onPlan, Effect.run_ofState]
  cases hfind : plans.getPlan runPlanId with
  | none => exact .inl ⟨_, rfl⟩
  | some plan =>
    cases hchange : change plan with
    | error exc =>
      left
      refine ⟨exc, ?_⟩
      dsimp only
      rw [hchange]
    | ok after =>
      right
      refine ⟨plan, after, rfl, hchange, ?_⟩
      dsimp only
      rw [hchange]

end RunPlans

end DqMadeEasy
