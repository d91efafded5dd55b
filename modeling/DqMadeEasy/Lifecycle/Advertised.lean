import DqMadeEasy.Lifecycle.Governance
import DqMadeEasy.Logic.Assoc

/-!
# Advertised transitions

The status model of an entity, with its transitions or those of a policy, is read twice: to decide
whether a move is allowed, and to list the moves of every status to a client. The first takes the
first transition of a pair of statuses, up to their spelling; the second takes every transition, by
the spelling that it has.
-/

namespace DqMadeEasy

namespace Lifecycle

def approvalStatusTransitions : List StatusTransitionDefinition :=
  [transition "pending" "approved" ["dq:rules:approve"],
   transition "pending" "rejected" ["dq:rules:approve"]]

def runPlanStatusTransitions : List StatusTransitionDefinition :=
  [transition "inactive" "activation-requested" ["dq:rules:write"],
   transition "draft" "activation-requested" ["dq:rules:write"],
   transition "activation-requested" "active" ["dq:rules:approve"],
   transition "activation-requested" "inactive" ["dq:rules:approve"],
   transition "active" "deactivation-requested" ["dq:rules:write"],
   transition "deactivation-requested" "deactivated" ["dq:rules:approve"],
   transition "deactivation-requested" "active" ["dq:rules:approve"]]

def connectorSyncJobStatusTransitions : List StatusTransitionDefinition :=
  [transition "queued" "running" [],
   transition "queued" "failed" [],
   transition "queued" "cancelled" [],
   transition "running" "completed" [],
   transition "running" "failed" [],
   transition "running" "cancelled" []]

/-- The transitions of `_STATUS_MODELS`. -/
def statusModels : List (Text × List StatusTransitionDefinition) :=
  [("rule", ruleStatusTransitions),
   ("rule_lifecycle", ruleLifecycleStatusTransitions),
   ("approval", approvalStatusTransitions),
   ("run_plan", runPlanStatusTransitions),
   ("connector_sync_job", connectorSyncJobStatusTransitions)]

section Advertised

variable [PyRuntime]

/-- `str(entity or "").strip().lower()`. -/
def normalizeEntity (entity : Text) : Text := PyRuntime.lower (Text.strip entity)

/-- `canonicalize_status`, for any entity. -/
def canonicalizeStatus (entity : Text) (status : Text) : Text :=
  let normalizedEntity := normalizeEntity entity
  let normalizedStatus := normalizeStatusValue (some status)
  if normalizedEntity = "rule" ∧ normalizedStatus = "pending" then
    "pending-approval"
  else if normalizedEntity = "rule" ∧ normalizedStatus = "declined" then
    "rejected"
  else if normalizedEntity = "approval" ∧ normalizedStatus = "declined" then
    "rejected"
  else normalizedStatus

/-- `get_status_model_definition`. The overrides of a policy stand under the name of an entity. -/
def getStatusModelDefinition (overrides : List (Text × List StatusTransitionDefinition))
    (entity : Text) : Option (List StatusTransitionDefinition) :=
  (Assoc.find? statusModels (normalizeEntity entity)).map fun defaultTransitions =>
    (Assoc.find? overrides (normalizeEntity entity)).getD defaultTransitions

variable (hasRequiredScope : List Text → List Text → Bool)

/-- `(not required) or has_required_scope(granted_scopes, required)`. -/
def permits (grantedScopes : List Text) (t : StatusTransitionDefinition) : Bool :=
  t.requiredAnyScopes.isEmpty || hasRequiredScope grantedScopes t.requiredAnyScopes

/-- The transition is about this pair of statuses, up to their spelling. -/
def isAbout (entity fromStatus toStatus : Text) (t : StatusTransitionDefinition) : Bool :=
  decide (canonicalizeStatus entity t.fromStatus = canonicalizeStatus entity fromStatus) &&
    decide (canonicalizeStatus entity t.toStatus = canonicalizeStatus entity toStatus)

def isTransitionAllowedForEntity (entity fromStatus toStatus : Text)
    (transitions : List StatusTransitionDefinition) (grantedScopes : List Text) : Bool :=
  match transitions.find? (isAbout entity fromStatus toStatus) with
  | some t => permits hasRequiredScope grantedScopes t
  | none => false

/-- `is_transition_allowed`. -/
def isTransitionAllowedFor (overrides : List (Text × List StatusTransitionDefinition))
    (entity fromStatus toStatus : Text) (grantedScopes : List Text) : Bool :=
  match getStatusModelDefinition overrides entity with
  | none => false
  | some transitions =>
    isTransitionAllowedForEntity hasRequiredScope entity fromStatus toStatus transitions
      grantedScopes

/-- `targets.append(transition.toStatus)` unless it is there. -/
def appendTarget (toStatus : Text) (targets : Option (List Text)) : List Text :=
  if toStatus ∈ targets.getD [] then targets.getD [] else targets.getD [] ++ [toStatus]

/-- One turn of the loop that groups the transitions. -/
def groupTransition (grantedScopes : List Text) (grouped : List (Text × List Text))
    (t : StatusTransitionDefinition) : List (Text × List Text) :=
  if permits hasRequiredScope grantedScopes t then
    Assoc.update t.fromStatus (appendTarget t.toStatus) grouped
  else grouped

def buildAllowedTransitionsByStatusMap (transitions : List StatusTransitionDefinition)
    (grantedScopes : List Text) : List (Text × List Text) :=
  transitions.foldl (groupTransition hasRequiredScope grantedScopes) []

def targetsOf (grouped : List (Text × List Text)) (fromStatus : Text) : List Text :=
  (Assoc.find? grouped fromStatus).getD []

/-- What a client is told that a status may become: the map of the entity's model. -/
def advertised (overrides : List (Text × List StatusTransitionDefinition)) (entity : Text)
    (grantedScopes : List Text) (fromStatus : Text) : List Text :=
  match getStatusModelDefinition overrides entity with
  | none => []
  | some transitions =>
    targetsOf (buildAllowedTransitionsByStatusMap hasRequiredScope transitions grantedScopes)
      fromStatus

/-! ### The map -/

omit [PyRuntime] in
theorem mem_appendTarget {target toStatus : Text} {targets : Option (List Text)} :
    target ∈ appendTarget toStatus targets ↔ target ∈ targets.getD [] ∨ target = toStatus := by
  rw [appendTarget]
  split
  · rename_i hmem
    refine (or_iff_left_of_imp ?_).symm
    rintro rfl
    exact hmem
  · rw [List.mem_append, List.mem_singleton]

omit [PyRuntime] in
/-- A turn of the loop adds the target of a permitted transition, and nothing else. -/
theorem mem_targetsOf_groupTransition {grantedScopes : List Text} {grouped : List (Text × List Text)}
    {t : StatusTransitionDefinition} {fromStatus toStatus : Text} :
    toStatus ∈ targetsOf (groupTransition hasRequiredScope grantedScopes grouped t) fromStatus ↔
      toStatus ∈ targetsOf grouped fromStatus ∨
        (t.fromStatus = fromStatus ∧ t.toStatus = toStatus ∧
          permits hasRequiredScope grantedScopes t = true) := by
  rw [groupTransition]
  cases hpermits : permits hasRequiredScope grantedScopes t with
  | false => simp
  | true =>
    rw [if_pos rfl, targetsOf, Assoc.find?_update]
    by_cases hfrom : t.fromStatus = fromStatus
    · subst hfrom
      rw [if_pos rfl, Option.getD_some, mem_appendTarget, targetsOf]
      simp [eq_comm]
    · rw [if_neg hfrom, targetsOf]
      simp [hfrom]

omit [PyRuntime] in
/-- The map holds exactly the permitted transitions, by their spelling. -/
theorem mem_targetsOf_build {transitions : List StatusTransitionDefinition}
    {grantedScopes : List Text} {fromStatus toStatus : Text} :
    toStatus ∈ targetsOf (buildAllowedTransitionsByStatusMap hasRequiredScope transitions
        grantedScopes) fromStatus ↔
      ∃ t ∈ transitions, t.fromStatus = fromStatus ∧ t.toStatus = toStatus ∧
        permits hasRequiredScope grantedScopes t = true := by
  suffices h : ∀ grouped, toStatus ∈ targetsOf
      (transitions.foldl (groupTransition hasRequiredScope grantedScopes) grouped) fromStatus ↔
        toStatus ∈ targetsOf grouped fromStatus ∨ ∃ t ∈ transitions, t.fromStatus = fromStatus ∧
          t.toStatus = toStatus ∧ permits hasRequiredScope grantedScopes t = true by
    refine (h []).trans (or_iff_right ?_)
    exact List.not_mem_nil
  induction transitions with
  | nil => simp
  | cons t transitions ih =>
    intro grouped
    rw [List.foldl_cons, ih, mem_targetsOf_groupTransition, or_assoc]
    simp only [List.mem_cons, exists_eq_or_imp]

/-! ### The two readings -/

/-- The first transition about a pair of statuses, up to their spelling, decides as the transitions
do that write the pair in this spelling: it is permitted exactly when one of those is. -/
def FirstDecides (transitions : List StatusTransitionDefinition) (entity : Text)
    (grantedScopes : List Text) (fromStatus toStatus : Text) : Prop :=
  ∀ t, transitions.find? (isAbout entity fromStatus toStatus) = some t →
    (permits hasRequiredScope grantedScopes t = true ↔
      ∃ t' ∈ transitions, t'.fromStatus = fromStatus ∧ t'.toStatus = toStatus ∧
        permits hasRequiredScope grantedScopes t' = true)

theorem isAbout_self (entity : Text) (t : StatusTransitionDefinition) :
    isAbout entity t.fromStatus t.toStatus t = true := by
  simp [isAbout]

end Advertised

section Sample

local instance sampleRuntimeAdvertised : PyRuntime := .ascii (fun _ => .nan) (fun _ => [])

-- The tables of the code are of this kind.
example : ∀ model ∈ statusModels, (∀ t ∈ model.2,
    canonicalizeStatus model.1 t.fromStatus = t.fromStatus ∧
      canonicalizeStatus model.1 t.toStatus = t.toStatus) ∧
    (model.2.map fun t => (t.fromStatus, t.toStatus)).Nodup := by decide +kernel

/-- A policy that lists a move twice: for the approvers, and for everyone. -/
def sampleOverrides : List (Text × List StatusTransitionDefinition) :=
  [("rule", [transition "draft" "testing" ["dq:rules:approve"],
    transition "draft" "testing" []])]

end Sample

end Lifecycle

end DqMadeEasy
