import Mathlib.Data.List.Lex
import Mathlib.Data.Prod.Lex
import Mathlib.Data.Char
import DqMadeEasy.Logic.Fallible
import DqMadeEasy.Logic.Sorted
import DqMadeEasy.Text.Json

/-!
# The grouped execution planner

`GroupedExecutionPlanner` turns a list of suites into one batch per data-object version. The loop
over the suites keeps the batches in a dictionary by target; a batch remembers the incremental
selection of its first suite, whether all its suites so far support SQL pushdown, and the entries
of its suites. The batches are sorted by target and their entries by suite.

How an input is coerced to a suite entity is a parameter of the planner.
-/

namespace DqMadeEasy

namespace Planner

/-- `GroupedExecutionPlanError`. -/
structure PlanError where
  message : Text
  statusCode : ℕ

/-- A planning error with the default status. -/
def planError {α : Type} (message : Text) : Except PlanError α := .error ⟨message, 400⟩

/-- `GxExecutionIncrementalSelectionEntity`. -/
structure IncrementalSelectionEntity where
  selectionMode : Option Text
  selectedDataObjectVersionIds : List Text
  deriving DecidableEq

/-- A checked incremental selection. -/
structure IncrementalSelection where
  selectionMode : Text
  selectedDataObjectVersionIds : List Text
  deriving DecidableEq

/-- The fields of `GxExecutionContractEntity` that the planner reads. -/
structure ExecutionContract where
  engineType : Option Text
  engineTarget : Option Text

/-- The fields of `GxArtifactEnvelopeEntity` that the planner reads. -/
structure Suite where
  suiteId : Text
  suiteVersion : ℕ
  dataObjectVersionIds : List Text
  recommendedEngine : Option Text
  emitGeneratedSql : Option Bool
  incrementalSelection : Option IncrementalSelectionEntity
  executionContract : Option ExecutionContract

/-! ### Engines -/

/-- `str(value or "").strip()`. -/
def stripped (value : Option Text) : Text := (value.getD []).strip

/-- `sql_pushdown_supported` of the declared engines. -/
def sqlPushdownSupported (engineType : Text) : Bool :=
  engineType == "pyspark_native"

section Pushdown

variable [PyRuntime]

def suiteEngineType (suite : Suite) : Option Text :=
  let engineType := stripped (suite.executionContract.bind ExecutionContract.engineType)
  let recommended := stripped suite.recommendedEngine
  let engineTarget := stripped (suite.executionContract.bind ExecutionContract.engineTarget)
  if engineType ≠ [] then some (PyRuntime.lower engineType)
  else if recommended ≠ [] then some (PyRuntime.lower recommended)
  else if engineTarget ≠ [] then some (PyRuntime.lower engineTarget)
  else none

def suiteSupportsSqlPushdown (suite : Suite) : Bool :=
  match suiteEngineType suite with
  | some engineType => sqlPushdownSupported engineType && suite.emitGeneratedSql.getD false
  | none => false

end Pushdown

/-! ### Targets -/

/-- The stripped values that are not empty. -/
def presentIds (values : List Text) : List Text := (values.map Text.strip).filter (· ≠ [])

def suiteMessage (suite : Suite) (what : String) : Text :=
  "GROUPED_EXECUTION suite '" ++ suite.suiteId ++ "' " ++ what.toList

def extractIncrementalSelection (suite : Suite) :
    Except PlanError (Option IncrementalSelection) :=
  match suite.incrementalSelection with
  | none => .ok none
  | some selection =>
    let selectionMode := stripped selection.selectionMode
    let selectedIds := presentIds selection.selectedDataObjectVersionIds
    if selectionMode ∉ ["new_partitions".toList, "changed_slices".toList] then
      planError (suiteMessage suite "declares an unsupported incremental selection mode '" ++
        selectionMode ++ "'".toList)
    else if selectedIds = [] then
      planError (suiteMessage suite
        "declares incremental selection without selectedDataObjectVersionIds")
    else .ok (some ⟨selectionMode, selectedIds⟩)

def extractTargetIds (suite : Suite) : Except PlanError (List Text) :=
  if suite.dataObjectVersionIds = [] then
    planError "GROUPED_EXECUTION suite does not define any dataObjectVersionId targets"
  else
    let targetIds := presentIds suite.dataObjectVersionIds
    if targetIds = [] then
      planError (suiteMessage suite "does not define any dataObjectVersionId targets")
    else .ok targetIds.eraseDups

def withTargetIds (payload : Dict) (targetIds : List Text) : Dict :=
  let ids : Json := .list (targetIds.map fun t => .scalar (.str t))
  let scope : Dict :=
    ((payload.get "resolvedExecutionScope").dictOrEmpty).insert "dataObjectVersionIds" ids
  payload.insert "resolvedExecutionScope" (.dict scope)

/-! ### Batches -/

/-- `suite_entry`. -/
structure SuiteEntry where
  suiteId : Text
  suiteVersion : ℕ
  dataObjectVersionIds : List Text
  suiteEnvelope : Dict

/-- What a suite contributes to the batches of its targets. -/
structure Prepared where
  targetIds : List Text
  incrementalSelection : Option IncrementalSelection
  supportsSqlPushdown : Bool
  entry : SuiteEntry
  suiteId : Text

/-- A value of `grouped_batches`. -/
structure BatchPayload where
  incrementalSelection : Option IncrementalSelection
  suiteEntries : List SuiteEntry
  supportsSqlPushdown : Bool

/-- `grouped_batches`. -/
abbrev Batches := List (Text × BatchPayload)

/-- The targets of a suite after its incremental selection. -/
def selectTargetIds (suite : Suite) (targetIds : List Text) :
    Option IncrementalSelection → Except PlanError (List Text)
  | none => .ok targetIds
  | some selection =>
    let selectedIds := selection.selectedDataObjectVersionIds
    if (selectedIds.filter (· ∉ targetIds)) ≠ [] then
      planError (suiteMessage suite
        "declares incremental selection outside its resolved execution scope")
    else
      let chosen := targetIds.filter (· ∈ selectedIds)
      if chosen = [] then
        planError (suiteMessage suite "declares incremental selection without matching targets")
      else .ok chosen

/-- The first half of the loop body: the targets and the entry of a suite. -/
def prepare [PyRuntime] (suite : Suite) (payload : Dict) : Except PlanError Prepared := do
  let resolved ← extractTargetIds suite
  let incrementalSelection ← extractIncrementalSelection suite
  let targetIds ← selectTargetIds suite resolved incrementalSelection
  return { targetIds, incrementalSelection
           supportsSqlPushdown := suiteSupportsSqlPushdown suite
           entry := ⟨suite.suiteId.strip, suite.suiteVersion, targetIds,
             withTargetIds payload targetIds⟩
           suiteId := suite.suiteId }

/-- The loop over the targets of a suite, for one target. -/
def addTarget (p : Prepared) (batches : Batches) (targetId : Text) : Except PlanError Batches :=
  let batch := (Assoc.find? batches targetId).getD
    ⟨p.incrementalSelection, [], p.supportsSqlPushdown⟩
  if batch.incrementalSelection ≠ p.incrementalSelection then
    planError ("GROUPED_EXECUTION suite '" ++ p.suiteId ++
      "' declares a conflicting incremental selection for target '" ++ targetId ++
      "'")
  else
    .ok (Assoc.update targetId
      (fun _ =>
        { batch with
          supportsSqlPushdown :=
            if batch.supportsSqlPushdown then p.supportsSqlPushdown else batch.supportsSqlPushdown
          suiteEntries := batch.suiteEntries ++ [p.entry] }) batches)

/-- The second half of the loop body. -/
def addPrepared (batches : Batches) (p : Prepared) : Except PlanError Batches :=
  p.targetIds.foldlM (addTarget p) batches

/-- The loop body. -/
def addSuite [PyRuntime] (batches : Batches) (suite : Suite × Dict) : Except PlanError Batches := do
  let p ← prepare suite.1 suite.2
  addPrepared batches p

/-! ### The plan -/

/-- `plannerChoice`. -/
inductive PlannerChoice where
  | fullScope | incrementalScope | mixedScope
  deriving DecidableEq

/-- `executionPath`. -/
inductive ExecutionPath where
  | sqlPushdownGroupedExecution | incrementalGroupedExecution | groupedExecution
  | mixedGroupedExecution
  deriving DecidableEq

/-- A batch of the plan. -/
structure Batch where
  dataObjectVersionId : Text
  incrementalSelection : Option IncrementalSelection
  suiteCount : ℕ
  suiteIds : List Text
  suites : List Dict
  plannerChoice : PlannerChoice
  executionPath : ExecutionPath

/-- A plan; the empty plan has neither path nor choice. -/
structure Plan where
  suiteCount : ℕ
  batchCount : ℕ
  executionPath : Option ExecutionPath
  plannerChoice : Option PlannerChoice
  batches : List Batch

def SuiteEntry.key (entry : SuiteEntry) : Lex (Text × ℕ) :=
  toLex (entry.suiteId, entry.suiteVersion)

/-- `suites_for_target.sort(key=…)`. -/
def sortEntries (entries : List SuiteEntry) : List SuiteEntry :=
  Sorted.sortOn SuiteEntry.key entries

/-- The batch of a target. -/
def batchOf (targetId : Text) (payload : BatchPayload) : Batch :=
  let suitesForTarget := sortEntries payload.suiteEntries
  { dataObjectVersionId := targetId
    incrementalSelection := payload.incrementalSelection
    suiteCount := suitesForTarget.length
    suiteIds := suitesForTarget.map SuiteEntry.suiteId
    suites := suitesForTarget.map SuiteEntry.suiteEnvelope
    plannerChoice :=
      if payload.incrementalSelection.isSome then .incrementalScope else .fullScope
    executionPath :=
      if payload.supportsSqlPushdown && payload.incrementalSelection.isNone then
        .sqlPushdownGroupedExecution
      else if payload.incrementalSelection.isSome then .incrementalGroupedExecution
      else .groupedExecution }

/-- `sorted(grouped_batches)`, then the batch of each target. -/
def sortBatches (batches : Batches) : List Batch :=
  (Sorted.sortOn id (Assoc.keys batches)).filterMap fun targetId =>
    (Assoc.find? batches targetId).map (batchOf targetId)

/-- The planner choice over all batches. -/
def overallChoice (batches : List Batch) : PlannerChoice :=
  let incremental := batches.countP fun batch => batch.incrementalSelection.isSome
  if incremental = 0 then .fullScope
  else if incremental = batches.length then .incrementalScope
  else .mixedScope

def overallPath (batches : List Batch) : ExecutionPath :=
  match (batches.map Batch.executionPath).eraseDups with
  | [path] => path
  | _ => .mixedGroupedExecution

/-- `_build_plan_sync`, for a coercion of its inputs. -/
def buildPlan [PyRuntime] {Input : Type} (coerceSuite : Input → Except PlanError (Suite × Dict))
    (suites : List Input) : Except PlanError Plan := do
  let normalizedSuites ← suites.mapM coerceSuite
  match normalizedSuites with
  | [] => return ⟨0, 0, none, none, []⟩
  | suite :: rest => do
    let groupedBatches ← (suite :: rest).foldlM addSuite []
    let batches := sortBatches groupedBatches
    return ⟨(suite :: rest).length, batches.length, some (overallPath batches),
      some (overallChoice batches), batches⟩

end Planner

end DqMadeEasy
