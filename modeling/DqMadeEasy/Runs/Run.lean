import DqMadeEasy.Artifacts.GxSuite
import DqMadeEasy.Logic.Effect
import DqMadeEasy.Text.Datetime

/-!
# Execution runs

What a repository keeps of a run, the changes that are asked of it, and the interface of the
repositories. A repository stores its times as texts or as points in time; the rest of a run is the
same in both.
-/

namespace DqMadeEasy

namespace Runs

open Artifacts Worker

/-- The allowed values of `gx.execution_status`. -/
inductive RunStatus where
  | pending | running | succeeded | failed | cancelled
  deriving DecidableEq, Repr

namespace RunStatus

/-- The status as it is stored. -/
def text : RunStatus → Text
  | .pending => "pending"
  | .running => "running"
  | .succeeded => "succeeded"
  | .failed => "failed"
  | .cancelled => "cancelled"

/-- `TERMINAL_RUN_STATUSES`. -/
def terminal : RunStatus → Bool
  | .pending | .running => false
  | .succeeded | .failed | .cancelled => true

/-- `_ACTIVE_GX_EXECUTION_STATUSES`. -/
def active (status : RunStatus) : Bool := !status.terminal

end RunStatus

/-- `GxExecutionRunStatusHistoryEntity`. -/
structure StatusHistory where
  id : Text
  runId : Text
  fromStatus : Option RunStatus
  toStatus : RunStatus
  changedBy : Option Text
  /-- A reading of the clock. Its text sorts as it does. -/
  changedAt : ℕ
  reason : Option Text
  details : Dict

/-- The fields of a run that creation sets, with times of a type. -/
structure RunContent (Time : Type) where
  suiteId : Option Text
  suiteVersion : Option ℤ
  ruleId : Option Text
  ruleVersionId : Option Text
  correlationId : Text
  requestedBy : Option Text
  engineType : Text
  engineTarget : Text
  executionShape : Text
  status : RunStatus
  submittedAt : Time
  startedAt : Option Time
  completedAt : Option Time
  executionProgress : Option Dict
  executionContract : Option GxExecutionContract
  handoffPayload : Option Dict
  resultSummary : Dict
  metrics : Option Dict
  diagnostics : List Dict
  failureCode : Option Text
  failureMessage : Option Text
  comments : Option Text

/-- A stored run. -/
structure Run (Time : Type) extends RunContent Time where
  createdAt : ℕ
  updatedAt : ℕ

/-- `GxExecutionRunCreateEntity`. -/
structure RunCreate extends RunContent Text where
  runId : Text
  performanceSummary : Option Dict
  statusReason : Option Text
  statusDetails : Dict

/-- `GxExecutionRunStatusTransitionEntity`. -/
structure StatusTransition where
  runId : Text
  newStatus : RunStatus
  changedBy : Option Text
  reason : Option Text
  details : Dict
  executionProgress : Option Dict
  startedAt : Option Text
  completedAt : Option Text
  resultSummary : Option Dict
  metrics : Option Dict
  performanceSummary : Option Dict
  diagnostics : Option (List Dict)
  failureCode : Option Text
  failureMessage : Option Text

/-- `GxExecutionRunEntity`: a stored run with its id and its history. -/
structure RunEntity (Time : Type) extends Run Time where
  id : Text
  statusHistory : List StatusHistory

/-- The run with its times as texts. -/
def RunEntity.texts {Time : Type} (text : Time → Text) (run : RunEntity Time) :
    RunEntity Text where
  id := run.id
  suiteId := run.suiteId
  suiteVersion := run.suiteVersion
  ruleId := run.ruleId
  ruleVersionId := run.ruleVersionId
  correlationId := run.correlationId
  requestedBy := run.requestedBy
  engineType := run.engineType
  engineTarget := run.engineTarget
  executionShape := run.executionShape
  status := run.status
  submittedAt := text run.submittedAt
  startedAt := run.startedAt.map text
  completedAt := run.completedAt.map text
  executionProgress := run.executionProgress
  executionContract := run.executionContract
  handoffPayload := run.handoffPayload
  resultSummary := run.resultSummary
  metrics := run.metrics
  diagnostics := run.diagnostics
  failureCode := run.failureCode
  failureMessage := run.failureMessage
  comments := run.comments
  createdAt := run.createdAt
  updatedAt := run.updatedAt
  statusHistory := run.statusHistory

/-- `bool` of an optional text. -/
def truthyText : Option Text → Bool
  | some t => t != []
  | none => false

/-- `dict(metrics or performance_summary or {}) or None`. -/
def createdMetrics (create : RunCreate) : Option Dict :=
  match create.metrics.getD [], create.performanceSummary.getD [] with
  | [], [] => none
  | [], summary => some summary
  | metrics, _ => some metrics

/-- What both repositories merge of a transition in the same way. -/
def Run.merge {Time : Type} (run : Run Time) (transition : StatusTransition) : Run Time :=
  { run with
    status := transition.newStatus
    executionProgress := transition.executionProgress.or run.executionProgress
    resultSummary := transition.resultSummary.getD run.resultSummary
    metrics := (transition.metrics.or transition.performanceSummary).or run.metrics
    diagnostics := transition.diagnostics.getD run.diagnostics
    failureCode := transition.failureCode.or run.failureCode
    failureMessage := transition.failureMessage.or run.failureMessage }

/-- The history entry of a change of status. -/
def StatusTransition.historyEntry (transition : StatusTransition) (id : Text)
    (fromStatus : RunStatus) (changedAt : ℕ) : StatusHistory where
  id := id
  runId := transition.runId
  fromStatus := some fromStatus
  toStatus := transition.newStatus
  changedBy := transition.changedBy
  changedAt := changedAt
  reason := transition.reason
  details := transition.details

/-- The history entry of a creation. -/
def RunCreate.historyEntry (create : RunCreate) (id : Text) (changedAt : ℕ) : StatusHistory where
  id := id
  runId := create.runId
  fromStatus := none
  toStatus := create.status
  changedBy := create.requestedBy
  changedAt := changedAt
  reason := create.statusReason
  details := create.statusDetails

/-! ### Reading a run -/

section Reading

variable [PyRuntime] [PyNumerals]

/-- `int(value)`. -/
def pyInt (value : Json) : Except PyError ℤ :=
  match value.toInt?, value with
  | some n, _ => .ok n
  | none, .scalar (.str _) | none, .scalar (.float .nan) =>
    .error (.builtin "ValueError" "invalid literal for int()")
  | none, .scalar (.float _) =>
    .error (.builtin "OverflowError" "cannot convert float infinity to integer")
  | none, _ =>
    .error (.builtin "TypeError" "int() argument must be a string or a real number")

/-- `_mapping_value` of two keys. -/
def mappingValue (payload : Dict) (key key' : String) : Json :=
  if (payload.get key).isNone then payload.get key' else payload.get key

/-- `build_gx_execution_progress_entity`: the numbers that it reads. -/
def readProgress (progress : Dict) : Except PyError Unit := do
  let _ ← pyInt ((progress.get "percent").orElse (.int 0))
  for value in [mappingValue progress "completedSteps" "completed_steps",
      mappingValue progress "totalSteps" "total_steps"] do
    if !value.isNone then
      let _ ← pyInt value

/-- `build_gx_execution_run_entity` of a stored run with its history. -/
def buildRunEntity {Time : Type} (runId : Text) (run : Run Time) (history : List StatusHistory) :
    Except PyError (RunEntity Time) := do
  match run.executionProgress with
  | some progress => readProgress progress
  | none => pure ()
  return { run with id := runId, statusHistory := history }

omit [PyRuntime] in
/-- The entity carries the stored run. -/
theorem toRun_of_buildRunEntity {Time : Type} {runId : Text} {run : Run Time}
    {history : List StatusHistory} {entity : RunEntity Time}
    (h : buildRunEntity runId run history = .ok entity) :
    entity = { run with id := runId, statusHistory := history } := by
  rw [buildRunEntity] at h
  cases hprogress : run.executionProgress with
  | none =>
    rw [hprogress] at h
    cases h
    rfl
  | some progress =>
    rw [hprogress] at h
    obtain ⟨_, _, h⟩ := ok_of_bind h
    cases h
    rfl

end Reading

/-! ### Repositories -/

/-- The readings of the clocks during a call: the one of the program, and the one of the database at
the start of the transaction. -/
structure Moment where
  now : ℕ
  transaction : ℕ

/-- The interface `GxExecutionRunRepository`: its writing methods, given a fresh id for a history
entry, and what its readers return. -/
structure RunRepository (Store Time : Type) where
  empty : Store
  createRun : Moment → Text → RunCreate → Effect Store PyError (RunEntity Time)
  recordRunStatusTransition : Moment → Text → StatusTransition →
    Effect Store PyError (RunEntity Time)
  updateRunComments : Moment → Text → Option Text →
    Effect Store PyError (Option (RunEntity Time))
  find? : Store → Text → Option (Run Time)
  /-- The text of a stored time. -/
  text : Time → Text
  /-- The lists that `list_run_status_history` may return. -/
  Lists : Store → Text → List StatusHistory → Prop
  /-- The history entries of a run in the order in which they were written. -/
  entries : Store → Text → List StatusHistory
  /-- The reading that stamps a history entry. -/
  stamp : Moment → ℕ
  /-- Two stamps of entries that are surely listed in this order. -/
  Ordered : ℕ → ℕ → Prop
  /-- Whether a transition gets to its write. -/
  records : Moment → StatusTransition → Store → Bool

end Runs

end DqMadeEasy
