import DqMadeEasy.Approvals.Repository
import DqMadeEasy.Logic.Fate
import DqMadeEasy.RunPlans.Plan
import DqMadeEasy.Runs.Schedule

/-!
# The use cases of run plans

A request for a transition changes the version first and then asks for an approval; if that fails, it
moves the version back. An activation dispatches a run first and then activates the version. The
collaborators may refuse a call, and may fail after it had its effect.
-/

namespace DqMadeEasy

namespace RunPlans

open Artifacts Runs Worker

/-! ### The world of a request -/

/-- What the dispatcher is asked for. -/
inductive ActivationRequest where
  | groupedScope (groupedExecutionPlan scopeSelector : Dict) (suiteRefs : List Dict)
      (scheduledAt : Datetime) (requestedBy : Option Text) (runPlanId runPlanVersionId : Text)
  | scheduledSuite (suite : GxArtifactEnvelope) (scheduledAt : Datetime)
      (requestedBy : Option Text) (statusSource statusReason : Text)
      (runPlanId runPlanVersionId : Text)

/-- The repositories, and the runs that were dispatched. -/
structure World where
  plans : Repository
  approvals : Approvals.Store
  dispatched : List ActivationRequest

def plansPart : Effect.Part World Repository where
  get := World.plans
  set plans w := { w with plans := plans }
  get_set _ _ := rfl
  set_get _ := rfl

def approvalsPart : Effect.Part World Approvals.Store where
  get := World.approvals
  set approvals w := { w with approvals := approvals }
  get_set _ _ := rfl
  set_get _ := rfl

/-- How the calls of a request go, what a new approval draws, and what the dispatcher returns. -/
structure Circumstances where
  getPlan : Effect.Fate PyError
  listApprovals : Effect.Fate PyError
  transition : Effect.Fate PyError
  createApproval : Effect.Fate PyError
  compensation : Effect.Fate PyError
  dispatch : Effect.Fate ApiError
  activation : Effect.Fate PyError
  draw : Approvals.Draw
  dispatchPayload : Dict

/-- `detail` as a text. -/
def httpError (statusCode : ℕ) (detail : Text) : ApiError :=
  .http statusCode [entry "detail" (.scalar (.str detail))]

def getPlanOr404 (c : Circumstances) (runPlanId : Text) : Effect World ApiError Plan := do
  let plan ← plansPart.on .raised (c.getPlan.meet (Effect.ofState fun plans =>
    (.ok (plans.getPlan runPlanId), plans)))
  Effect.ofExcept (plan.elim
    (.error (httpError 404 ("GX run plan '" ++ runPlanId ++ "' not found"))) .ok)

def getVersionOr404 (plan : Plan) (versionId : Text) : Except ApiError Version :=
  (plan.version? versionId).elim
    (.error (httpError 404 ("GX run plan version '" ++ versionId ++ "' not found")))
    .ok

/-! ### Transitions -/

/-- `TransitionGxRunPlanVersionGovernanceStateCommand`. -/
structure TransitionCommand where
  runPlanId : Text
  runPlanVersionId : Text
  targetState : Text
  updatedBy : Option Text
  effectiveFrom : Option Text
  correlationId : Option Text

namespace TransitionCommand

/-- The type of the approval that a target needs. -/
def requestType (command : TransitionCommand) : Option Text :=
  if command.targetState = GovernanceState.activationRequested.text then some "activation"
  else if command.targetState = GovernanceState.deactivationRequested.text then
    some "deactivation"
  else none

/-- The transition that is asked of the repository. -/
def transition (command : TransitionCommand) : TransitionPlanVersion where
  runPlanVersionId := command.runPlanVersionId
  targetState := command.targetState
  updatedBy := command.updatedBy
  effectiveFrom := command.effectiveFrom
  correlationId := command.correlationId

/-- The transition back to a state. -/
def compensation (command : TransitionCommand) (currentState : Text) : TransitionPlanVersion where
  runPlanVersionId := command.runPlanVersionId
  targetState := currentState
  updatedBy := command.updatedBy
  effectiveFrom := none
  correlationId := command.correlationId

/-- The approval that is asked for. -/
def approvalPayload (command : TransitionCommand) (plan : Plan) (requestType : Text) : Dict :=
  [entry "rule_id" (.text ""),
    entry "gx_run_plan_id" (.scalar (.str command.runPlanId)),
    entry "gx_run_plan_version_id" (.scalar (.str command.runPlanVersionId)),
    entry "request_type" (.scalar (.str requestType)),
    entry "workspace_id" (.scalar (.str (if plan.workspaceId = [] then "default"
      else plan.workspaceId))),
    entry "comments" (.scalar (.str ("GX run plan version " ++ command.runPlanVersionId ++
      " requested " ++ requestType))),
    entry "status" (.text "pending"),
    entry "effective_at" (optText command.effectiveFrom)]

/-- A state that the table does not lead from to the target. -/
def invalidTransition (command : TransitionCommand) (currentState : Text) : ApiError :=
  .http 409 [entry "error" (.text "invalid_run_plan_transition"),
    entry "message" (.scalar (.str ("Run plan version cannot transition from " ++
      currentState ++ " to " ++ command.targetState))),
    entry "run_plan_id" (.scalar (.str command.runPlanId)),
    entry "run_plan_version_id" (.scalar (.str command.runPlanVersionId)),
    entry "current_state" (.scalar (.str currentState)),
    entry "target_state" (.scalar (.str command.targetState))]

/-- A pending approval of the same request: an element of `_list_pending_gx_run_plan_approvals`. -/
def isPendingApproval (command : TransitionCommand) (requestType : Text)
    (approval : Approvals.Approval) : Bool :=
  decide (Approvals.strippedOr approval.gxRunPlanId = command.runPlanId) &&
    decide (Approvals.strippedOr approval.gxRunPlanVersionId = command.runPlanVersionId) &&
    decide (Text.strip approval.status = "pending") &&
    decide (Text.strip approval.requestType = requestType)

def pendingRequest (command : TransitionCommand) (requestType : Text) : ApiError :=
  httpError 409 ("A pending " ++ requestType ++
    " request already exists for GX run plan version '" ++ command.runPlanVersionId ++
    "'")

end TransitionCommand

section Transition

variable [PyRuntime] [PyNumerals]

omit [PyRuntime] [PyNumerals] in
/-- What a transition checks before it asks the repository: its plan and its version. -/
def checkTransition (c : Circumstances) (command : TransitionCommand) :
    Effect World ApiError (Plan × Version) := do
  let plan ← getPlanOr404 c command.runPlanId
  let version ← Effect.ofExcept (getVersionOr404 plan command.runPlanVersionId)
  Effect.ofExcept (if isValidRunPlanVersionTransition version.governanceState command.targetState
    then .ok () else .error (command.invalidTransition version.governanceState))
  match command.requestType with
  | none => pure (plan, version)
  | some requestType =>
    let approvals ← approvalsPart.on .raised (c.listApprovals.meet (Effect.ofState fun store =>
      (.ok (store.approvals.map Prod.snd), store)))
    Effect.ofExcept (if approvals.any (command.isPendingApproval requestType)
      then .error (command.pendingRequest requestType) else .ok (plan, version))

/-- The request for an approval, and the transition back if it fails. -/
def requestApproval (c : Circumstances) (command : TransitionCommand) (plan : Plan)
    (version : Version) (requestType : Text) (row : Plan) : Effect World ApiError Plan := do
  let outcome ← Effect.attempt (approvalsPart.on id (c.createApproval.meet
    (Approvals.createApproval c.draw (command.approvalPayload plan requestType) command.updatedBy)))
  match outcome with
  | .ok _ => pure row
  | .error exc =>
    if exc.severity = .exception then do
      let _ ← plansPart.on .raised (c.compensation.meet
        (transitionPlanVersion command.runPlanId (command.compensation version.governanceState)))
      Effect.raise (httpError 500 ("Failed to create GX approval request: " ++ exc.message))
    else Effect.raise (.raised exc)

def transitionGxRunPlanVersionGovernanceState (c : Circumstances) (command : TransitionCommand) :
    Effect World ApiError Plan := do
  let checked ← checkTransition c command
  let row ← plansPart.on .raised (c.transition.meet
    (transitionPlanVersion command.runPlanId command.transition))
  match command.requestType with
  | none => pure row
  | some requestType => requestApproval c command checked.1 checked.2 requestType row

end Transition

/-! ### Activations -/

/-- `ActivateGxRunPlanVersionCommand`. -/
structure ActivateCommand where
  runPlanId : Text
  runPlanVersionId : Text
  activatedBy : Option Text
  correlationId : Option Text

/-- What `build_gx_run_plan_suite_selection_entity` reads, dumped by alias and without `None`. -/
structure SuiteSelection where
  selectionMode : Option Text
  groupedExecutionPlan : Option Dict
  scopeSelector : Dict
  suiteRefs : List Dict

/-- The functions with which an activation reads a version and a dispatch payload. -/
structure Readers where
  buildSuiteSelection : Dict → Except ApiError SuiteSelection
  resolveSingleSuiteActivationSnapshot : Version → Except ApiError GxArtifactEnvelope
  asDispatchPayload : Dict → Except ApiError DispatchPayload

namespace ActivateCommand

/-- An error of an activation, with the ids of the version. -/
def error (command : ActivateCommand) (statusCode : ℕ) (code message : String) (rest : Dict) :
    ApiError :=
  .http statusCode (errorDetail code message
    ([entry "run_plan_id" (.scalar (.str command.runPlanId)),
      entry "run_plan_version_id" (.scalar (.str command.runPlanVersionId))] ++ rest))

/-- The activation that is asked of the repository. -/
def activation (command : ActivateCommand) (payload : DispatchPayload) : ActivatePlan where
  runPlanVersionId := command.runPlanVersionId
  activatedBy := command.activatedBy
  dispatchedRunId := some (payload.queueMessageId.getD [])
  correlationId := command.correlationId

end ActivateCommand

section Activation

variable [PyRuntime] [PyNumerals] [PyDatetime] (readers : Readers)

omit [PyDatetime] in
/-- `str(schedule_definition.scheduledAt or "").strip()`. -/
def scheduledAtRaw (version : Version) : Text :=
  match version.content.scheduleDefinition.get "scheduledAt" with
  | .scalar .none => []
  | value => value.str.strip

/-- The run that an activation dispatches. -/
def activationRequest (command : ActivateCommand) (version : Version) :
    Except ApiError ActivationRequest := do
  if version.governanceState ≠ GovernanceState.approvedPendingActivation.text then
    .error (command.error 409 "invalid_run_plan_state"
      "Only approved_pending_activation run plan versions can be activated"
      [entry "state" (.scalar (.str version.governanceState))])
  else if scheduledAtRaw version = [] then
    .error (command.error 422 "missing_schedule_definition"
      "GX run plan version is missing scheduled_at" [])
  else
    let scheduledAt ← (Datetime.ofText (scheduledAtRaw version)).elim
      (.error (.raised (valueError ("Invalid isoformat string: " ++
        PyNumerals.stringRepr (scheduledAtRaw version))))) .ok
    let selection ← readers.buildSuiteSelection version.content.gxSuiteSelection
    if selection.selectionMode.getD [] = "grouped_scope" then
      .ok (.groupedScope (selection.groupedExecutionPlan.getD []) selection.scopeSelector
        selection.suiteRefs scheduledAt command.activatedBy command.runPlanId
        command.runPlanVersionId)
    else if version.content.suiteSnapshot.isNone then
      .error (command.error 422 "missing_suite_snapshot"
        "GX run plan version is missing the suite snapshot required for activation" [])
    else
      let suite ← readers.resolveSingleSuiteActivationSnapshot version
      .ok (.scheduledSuite suite scheduledAt command.activatedBy "gx.run_plan.activate"
        "GX run plan activated" command.runPlanId command.runPlanVersionId)

/-- What an activation checks before it dispatches. -/
def checkActivation (c : Circumstances) (command : ActivateCommand) :
    Effect World ApiError ActivationRequest := do
  let plan ← getPlanOr404 c command.runPlanId
  let version ← Effect.ofExcept (getVersionOr404 plan command.runPlanVersionId)
  Effect.ofExcept (activationRequest readers command version)

omit [PyRuntime] [PyNumerals] [PyDatetime] in
/-- `enqueue_grouped_scope_run` or `enqueue_scheduled_suite_run`. -/
def dispatchRun (c : Circumstances) (request : ActivationRequest) : Effect World ApiError Dict :=
  c.dispatch.meet (Effect.ofState fun w =>
    (.ok c.dispatchPayload, { w with dispatched := w.dispatched ++ [request] }))

def activateGxRunPlanVersion (c : Circumstances) (command : ActivateCommand) :
    Effect World ApiError (Plan × DispatchPayload) := do
  let request ← checkActivation readers c command
  let returned ← dispatchRun c request
  let payload ← Effect.ofExcept (readers.asDispatchPayload returned)
  let activated ← plansPart.on .raised (c.activation.meet
    (activatePlan command.runPlanId (command.activation payload)))
  return (activated, payload)

end Activation

end RunPlans

end DqMadeEasy
