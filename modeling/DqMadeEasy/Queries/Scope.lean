import Mathlib.Data.List.ReduceOption
import DqMadeEasy.Runs.Schedule

/-!
# The scope of a query for runs

What the queries for runs read of a run, and how a scope of the catalog becomes a set of suites. The
repositories that a query reads are an interface.
-/

namespace DqMadeEasy

namespace Queries

open Runs Worker Artifacts

/-! ### Repositories -/

/-- The identifiers of a scope of the catalog. -/
structure CatalogScope where
  dataProductId : Option Text
  datasetId : Option Text
  dataObjectId : Option Text
  dataObjectVersionId : Option Text
  deriving DecidableEq

/-- What a query reads of a suite. -/
structure SuiteRow where
  suiteId : Text
  suiteVersion : ℤ

/-- What a query reads of a rule: its name and, of its taxonomy and of the rule itself, the owner,
the domain and the severity. -/
structure RuleRow where
  name : Text
  taxonomy : Option (Option Text × Option Text × Option Text)
  owner : Option Text
  domain : Option Text
  severity : Option Text

/-- The repositories in a state. A repository of runs stores a run under its id. -/
structure Repositories where
  /-- `list_runs` of the runs that were submitted after a time and have a status. -/
  listRuns : ℤ → Option Text → List (RunEntity Text)
  /-- The ids that `list_plans` returns for a workspace. -/
  listPlans : Text → List Text
  /-- `list_suites` for a scope and a status, with all versions. -/
  listSuites : CatalogScope → Text → List SuiteRow
  getRuleById : Text → Option RuleRow
  /-- The ids and the names of `list_data_objects_catalog`. -/
  listDataObjectsCatalog : List (Text × Text)
  /-- The ids of `list_data_object_versions`, and of their data objects. -/
  listDataObjectVersions : List (Text × Text)
  nodup_listRuns : ∀ after status, ((listRuns after status).map RunEntity.id).Nodup

/-! ### Reading a run -/

def normalizeScopeTerm (value : Option Text) : Text := Text.strip (value.getD [])

section Readers

variable [PyRuntime] [PyNumerals]

/-- A field of a stored entity, under its alias or its name. -/
def field (payload : Dict) (key name : String) : Json :=
  if payload.contains key.toList then payload.get key else payload.get name

/-- `_optional_payload_text` of a mapping. -/
def optionalPayloadText (payload : Dict) (keys : List String) : Option Text :=
  keys.findSome? fun key => nonBlank (payload.get key).strippedText

/-- `_extract_run_execution_plan_id`. A run itself has none of these attributes. -/
def extractRunExecutionPlanId (run : RunEntity Text) : Option Text :=
  run.handoffPayload.bind fun payload => optionalPayloadText payload ["run_plan_id", "runPlanId"]

/-- `_extract_run_delivery_id`. A run itself has none of these attributes. -/
def extractRunDeliveryId (run : RunEntity Text) : Option Text :=
  let keys := ["resolved_data_delivery_id", "resolvedDataDeliveryId"]
  let contracted := run.executionContract.bind fun contract =>
    nonBlank (Text.strip (contract.resolvedDataDeliveryId.getD []))
  let handedOff := run.handoffPayload.bind fun payload =>
    ((payload.get "delivery_snapshot").asDict?.bind fun snapshot =>
      optionalPayloadText snapshot keys).or (optionalPayloadText payload keys)
  contracted.or handedOff

abbrev SuiteKey := Text × ℤ

def ownSuiteRef (run : RunEntity Text) : Option SuiteKey :=
  match normalizeScopeTerm run.suiteId, run.suiteVersion with
  | [], _ | _, none => none
  | suiteId, some version => some (suiteId, version)

/-- `int(value) if value is not None else None` under its handler, which lets an infinity pass. -/
def suiteVersionOf (value : Json) : Except PyError (Option ℤ) :=
  match pyInt value with
  | .ok version => .ok (some version)
  | .error exc => if exc.className = "OverflowError" then .error exc else .ok none

/-- The suite that an entry of `suiteRefs` names. -/
def suiteRefOfEntry (entry : Dict) : Except PyError (Option SuiteKey) := do
  let suiteId := ((entry.get "suiteId").orElse (entry.get "suite_id")).strippedText
  match ← suiteVersionOf (mappingValue entry "suiteVersion" "suite_version"), suiteId with
  | _, [] | none, _ => return none
  | some version, suiteId => return some (suiteId, version)

/-- The entries of `suiteRefs` of the payload that was handed off. -/
def handedOffSuiteRefs (run : RunEntity Text) : List Dict :=
  ((run.handoffPayload.bind fun payload => (payload.get "suite_refs").asList?).getD []).filterMap
    Json.asDict?

def extractRunSuiteRefs (run : RunEntity Text) : Except PyError (List SuiteKey) := do
  let refs ← (handedOffSuiteRefs run).mapM suiteRefOfEntry
  return (ownSuiteRef run).toList ++ refs.reduceOption

def readSuiteRef (entry : Dict) : Option SuiteKey :=
  match suiteRefOfEntry entry with
  | .ok ref => ref
  | .error _ => none

def referencesAny (run : RunEntity Text) (keys : List SuiteKey) : Bool :=
  ((ownSuiteRef run).toList ++ (handedOffSuiteRefs run).filterMap readSuiteRef).any (· ∈ keys)

/-- The references that the query reads are all references of the run. -/
theorem extractRunSuiteRefs_ok {run : RunEntity Text} {refs : List SuiteKey}
    (h : extractRunSuiteRefs run = .ok refs) :
    refs = (ownSuiteRef run).toList ++ (handedOffSuiteRefs run).filterMap readSuiteRef := by
  obtain ⟨read, hread, h⟩ := ok_of_bind h
  rw [← Except.ok.inj h]
  congr 1
  have hforall := mapM_ok hread
  clear h hread
  generalize handedOffSuiteRefs run = entries at hforall
  induction hforall with
  | nil => rfl
  | @cons entry ref entries rest hentry _ ih =>
    have hentry : readSuiteRef entry = ref := by rw [readSuiteRef, hentry]
    cases ref with
    | none => rw [List.filterMap_cons_none hentry, ← ih, List.reduceOption_cons_of_none]
    | some key => rw [List.filterMap_cons_some hentry, ← ih, List.reduceOption_cons_of_some]

/-! ### Matching a scope -/

/-- What a run has to match. -/
structure RunScope where
  workspaceRunPlanIds : Option (List Text) := none
  runPlanId : Option Text := none
  suiteKeys : Option (List SuiteKey) := none
  deliveryId : Option Text := none

/-- Whether the run plan of a run is the one that is asked for, in the workspace that is asked for. -/
def RunScope.matchesPlan (scope : RunScope) (run : RunEntity Text) : Bool :=
  let planId := extractRunExecutionPlanId run
  (scope.workspaceRunPlanIds.all fun ids => planId.any (· ∈ ids)) &&
    (normalizeScopeTerm scope.runPlanId = [] ∨
      planId = some (normalizeScopeTerm scope.runPlanId))

/-- `_run_matches_scope`. A delivery is compared before the suites are looked at. -/
def runMatchesScope (scope : RunScope) (run : RunEntity Text) : Except PyError Bool :=
  if !scope.matchesPlan run then .ok false
  else if normalizeScopeTerm scope.deliveryId ≠ [] then
    .ok (extractRunDeliveryId run = some (normalizeScopeTerm scope.deliveryId))
  else
    match scope.suiteKeys with
    | none | some [] => .ok true
    | some keys => (extractRunSuiteRefs run).map fun refs => refs.any (· ∈ keys)

def resolveWorkspaceRunPlanIds (R : Repositories) (workspaceId : Option Text) :
    Option (List Text) :=
  match normalizeScopeTerm workspaceId with
  | [] => none
  | workspaceId => some ((R.listPlans workspaceId).filterMap fun id => nonBlank (Text.strip id))

/-! ### The suites of a scope -/

namespace CatalogScope

/-- The identifiers without blanks, and none where nothing is left. -/
def normalized (scope : CatalogScope) : CatalogScope where
  dataProductId := nonBlank (normalizeScopeTerm scope.dataProductId)
  datasetId := nonBlank (normalizeScopeTerm scope.datasetId)
  dataObjectId := nonBlank (normalizeScopeTerm scope.dataObjectId)
  dataObjectVersionId := nonBlank (normalizeScopeTerm scope.dataObjectVersionId)

/-- Whether a query filters by the catalog. -/
def Given (scope : CatalogScope) : Prop := scope.normalized ≠ ⟨none, none, none, none⟩

instance (scope : CatalogScope) : Decidable scope.Given := by
  unfold Given
  infer_instance

end CatalogScope

def scopeStatuses : List Text := ["active", "deprecated", "disabled"]

def suiteKey (row : SuiteRow) : Option SuiteKey :=
  (nonBlank (Text.strip row.suiteId)).map fun suiteId => (suiteId, row.suiteVersion)

def attachedSuites (R : Repositories) (scope : CatalogScope) : List SuiteKey :=
  scopeStatuses.flatMap fun status => (R.listSuites scope.normalized status).filterMap suiteKey

def resolveSuiteKeysForScope (R : Repositories) (scope : CatalogScope) : List SuiteKey :=
  if scope.Given then attachedSuites R scope else []

/-- The keys that are passed on: `suite_keys or None`. -/
def suiteFilter (R : Repositories) (scope : CatalogScope) : Option (List SuiteKey) :=
  match resolveSuiteKeysForScope R scope with
  | [] => none
  | keys => some keys

/-! ### The in-memory registry -/

/-- What the in-memory registry reads of a suite. -/
structure Assignment where
  suite : SuiteRow
  status : Text
  dataProductId : Option Text
  datasetId : Option Text
  dataObjectId : Option Text
  dataObjectVersionIds : List Text

/-- Whether an identifier that is asked for is the one of an assignment. -/
def assigned (asked actual : Option Text) : Bool := asked.all fun id => actual.getD [] = id

/-- Whether a suite is assigned to a scope. -/
def Assignment.inScope (assignment : Assignment) (scope : CatalogScope) : Bool :=
  assigned scope.dataObjectId assignment.dataObjectId &&
  assigned scope.datasetId assignment.datasetId &&
  assigned scope.dataProductId assignment.dataProductId &&
  scope.dataObjectVersionId.all (· ∈ assignment.dataObjectVersionIds)

/-- `list_artifacts` of the in-memory registry, with all versions. -/
def listArtifacts (assignments : List Assignment) (scope : CatalogScope) (status : Text) :
    List SuiteRow :=
  (assignments.filter fun assignment =>
    assignment.status = status && assignment.inScope scope).map Assignment.suite

end Readers

end Queries

end DqMadeEasy
