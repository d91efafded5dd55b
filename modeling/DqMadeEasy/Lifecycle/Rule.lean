import DqMadeEasy.Lifecycle.Governance
import DqMadeEasy.Text.Json

/-!
# Stored rules

What the in-memory repository keeps of a rule. Its three maps from rule ids (the rules, their
details and their versions) are only ever written together, so a rule's entries stand in one record.
Versions and rollbacks stand newest first.

A details key that an operation has not written yet reads as `None`. A version row of the seed data
may lack the key `description`, which a rollback reads without a default.
-/

namespace DqMadeEasy

namespace Lifecycle

/-- A point in time. Its ISO text is never empty. -/
abbrev Instant := ℕ

/-- What the repositories raise. -/
inductive RepositoryError where
  | valueError (message : Text)
  | lookupError (message : Text)
  | keyError (key : String)
  | indexError
  | nameError (name : String)
  deriving DecidableEq

/-- `if condition: raise error`. -/
def raiseIf (condition : Prop) [Decidable condition] (error : RepositoryError) :
    Except RepositoryError Unit := if condition then .error error else .ok ()

def orRaise {α : Type} (value : Option α) (error : RepositoryError) : Except RepositoryError α :=
  match value with
  | some a => .ok a
  | none => .error error

theorem not_of_raiseIf {condition : Prop} [Decidable condition] {error : RepositoryError} {u : Unit}
    (h : raiseIf condition error = .ok u) : ¬condition := by
  intro hcondition
  rw [raiseIf, if_pos hcondition] at h
  cases h

theorem eq_some_of_orRaise {α : Type} {value : Option α} {error : RepositoryError} {a : α}
    (h : orRaise value error = .ok a) : value = some a := by
  cases value with
  | none => cases h
  | some b =>
    cases h
    rfl

/-- The arguments with which a rule is created or edited. -/
structure RuleFields where
  name : Text
  description : Option Text
  comments : Option Text
  expression : Text
  dimension : Text
  active : Bool
  dsl : Option Dict
  joinConditions : List Dict
  aliasMappings : Dict
  reusableJoinId : Option Text
  reusableFilterIds : List Text
  manualOverrideBy : Option Text
  manualOverrideAt : Option Instant
  checkType : Option Text
  checkTypeParams : Option Dict
  taxonomy : Option Dict

/-- The fields of `RuleEntity` that the map of rules holds. -/
structure RuleEntity where
  name : Text
  description : Option Text
  comments : Option Text := none
  expression : Text
  dimension : Text
  active : Bool
  lifecycleStatus : Text := "active"
  createdByUserId : Text
  tagIds : List Text

/-- The entry of `_rule_details`. -/
structure RuleDetails where
  workspace : Text
  lifecycleStatus : Option Text
  generated : Bool
  isTemplate : Bool
  templateId : Option Text
  suggestionId : Option Text
  comments : Option Text
  dsl : Option Dict
  taxonomy : Option Dict
  joinConditions : List Dict
  aliasMappings : Dict
  reusableJoinId : Option Text
  manualOverrideBy : Option Text
  manualOverrideAt : Option Instant
  checkType : Option Text
  checkTypeParams : Option Dict
  reusableFilterIds : List Text
  validationStatus : Option Text
  lastApprovalStatus : Option Text
  lastApprovalBy : Option Text
  removedAt : Option Instant
  removedBy : Option Text

/-- The entry `rule` of a version row. -/
structure RuleSnapshot where
  name : Text
  /-- `none` where the key is missing. -/
  description : Option (Option Text)
  comments : Option Text
  expression : Text
  dimension : Text
  active : Bool
  dsl : Option Dict
  taxonomy : Option Dict
  checkType : Option Text
  checkTypeParams : Option Dict
  lifecycleStatus : Option Text := none

/-- A row of `_rule_versions`. -/
structure VersionRow where
  id : Text
  versionNumber : ℕ
  createdAt : Instant
  createdBy : Text
  changeType : String
  changeDescription : Text
  markedForRollback : Bool := false
  tags : List Text
  rule : RuleSnapshot
  validationStatus : Option Text := none
  validatedAt : Option Instant := none
  validatedByUserId : Option Text := none

def VersionRow.core (row : VersionRow) : Text × ℕ × RuleSnapshot :=
  (row.id, row.versionNumber, row.rule)

/-- A row of `_rollback_history`. -/
structure RollbackRow where
  id : Text
  rolledBackAt : Instant
  rolledBackBy : Text
  reason : Text
  fromVersionNumber : ℕ
  toVersionNumber : ℕ
  newVersionNumber : ℕ

/-- A row of `_status_history`. -/
structure StatusHistoryRow where
  action : Text
  fromStatus : Option Text
  toStatus : Text
  changedBy : Option Text
  changedAt : Instant
  reason : Option Text
  details : Option Dict := none

/-- All that the repository keeps of a rule. -/
structure StoredRule where
  entity : RuleEntity
  details : RuleDetails
  versions : List VersionRow
  rollbacks : List RollbackRow
  history : List StatusHistoryRow

/-! ### Calls -/

/-- The arguments of a creation besides the fields of the rule. -/
structure Origin where
  workspace : Text
  createdBy : Text
  generated : Bool
  isTemplate : Bool
  templateId : Option Text
  suggestionId : Option Text

/-- The statuses that the approval and the testing endpoints record. -/
inductive WorkflowStatus where
  | pendingApproval | approved | rejected | tested
  deriving DecidableEq, Repr

/-- The argument `to_status` of those endpoints. -/
def WorkflowStatus.text : WorkflowStatus → Text
  | .pendingApproval => "pending-approval"
  | .approved => "approved"
  | .rejected => "rejected"
  | .tested => "tested"

/-- A call of a method of `RulesRepository` that writes rules. -/
inductive Operation where
  | create (ruleId : Text) (now : Instant) (origin : Origin) (fields : RuleFields)
  | update (ruleId : Text) (now : Instant) (fields : RuleFields)
  | activate (ruleId : Text) (now : Instant)
  | deactivate (ruleId : Text) (now : Instant)
  | softDelete (ruleId : Text) (now : Instant) (removedBy : Text)
  | recover (ruleId : Text) (now : Instant) (recoveredBy : Text)
  | setLifecycleStatus (ruleId : Text) (now : Instant) (lifecycleStatus : Text)
      (changedBy reason : Option Text)
  | rollback (ruleId : Text) (now : Instant) (toVersionId reason : Text)
      (requestedByUserId : Option Text) (skipApproval : Bool) (tags : Option (List Text))
  | updateVersionTags (ruleId versionId : Text) (tags : List Text)
  | markForRollback (ruleId versionId : Text) (marked : Bool)
  | setVersionValidation (ruleId : Text) (now : Instant) (validationStatus : Text)
      (validatedBy : Option Text)
  | recordAuditEvent (ruleId : Text) (now : Instant) (action : Text)
      (fromStatus toStatus changedBy reason : Option Text) (eventDetails : Option Dict)
  | recordStatusTransition (ruleId : Text) (now : Instant) (fromStatus : Option Text)
      (toStatus : WorkflowStatus) (changedBy reason : Option Text)
  | saveAsTemplate (templateId : Text) (now : Instant) (ruleId templateName : Text)
      (templateDescription : Option Text) (createdBy : Text)

def Operation.newId? : Operation → Option Text
  | .create ruleId _ _ _ => some ruleId
  | .saveAsTemplate templateId _ _ _ _ _ => some templateId
  | _ => none

/-! ### Version numbers -/

/-- `max(row["versionNumber"] for row in rows) + 1`. -/
def nextVersionNumber (rows : List VersionRow) : ℕ :=
  (rows.map VersionRow.versionNumber).foldr max 0 + 1

/-- `f"{n:03d}"`. -/
def zeroPadded (n : ℕ) : Text :=
  List.replicate (3 - (Nat.toDigits 10 n).length) '0' ++ Nat.toDigits 10 n

/-- `f"rv-{n:03d}"`. -/
def versionId (n : ℕ) : Text := "rv-" ++ zeroPadded n

/-- `f"rb-{n:03d}"`. -/
def rollbackId (n : ℕ) : Text := "rb-" ++ zeroPadded n

theorem ofDigitChars_zeroPadded (n : ℕ) : Nat.ofDigitChars 10 (zeroPadded n) 0 = n := by
  rw [zeroPadded, Nat.ofDigitChars_append, Nat.ofDigitChars_replicate_zero, Nat.mul_zero]
  exact Nat.ofDigitChars_ten_toDigits

theorem versionId_injective : Function.Injective versionId := by
  intro m n h
  have hpadded : zeroPadded m = zeroPadded n := List.append_cancel_left h
  rw [← ofDigitChars_zeroPadded m, hpadded, ofDigitChars_zeroPadded]

theorem versionNumber_lt_next {rows : List VersionRow} {row : VersionRow} (h : row ∈ rows) :
    row.versionNumber < nextVersionNumber rows := by
  induction rows with
  | nil => cases h
  | cons first rows ih =>
    show row.versionNumber < max first.versionNumber _ + 1
    rcases List.mem_cons.mp h with rfl | h
    · omega
    · have := ih h
      rw [nextVersionNumber] at this
      omega

/-! ### Statuses -/

section Statuses

variable [PyRuntime]

/-- `_normalize_rule_status`, which repeats the canonical form of the status tables. -/
def normalizeRuleStatus (value : Option Text) : Text := canonicalizeStatusValue .rule value

/-- The status that a deletion, an active flag and a recorded approval status amount to. -/
def ruleStatusOf (removed active : Bool) (lastApprovalStatus : Option Text) : Text :=
  if removed then "removed"
  else if active then "activated"
  else
    let normalized := normalizeRuleStatus lastApprovalStatus
    if normalized = [] then "draft" else normalized

/-- `_current_rule_status` of a rule that is there. -/
def StoredRule.currentStatus (r : StoredRule) : Text :=
  ruleStatusOf r.details.removedAt.isSome r.entity.active r.details.lastApprovalStatus

/-- The check of `_ensure_rule_transition_allowed` and of its sibling for lifecycle statuses. -/
def ensureTransitionAllowed (overrides : PolicyOverrides) (entity : StatusEntity)
    (fromStatus : Option Text) (toStatus : Text) : Except RepositoryError Unit :=
  let normalizedFrom := canonicalizeStatusValue entity fromStatus
  let normalizedTo := canonicalizeStatusValue entity (some toStatus)
  if normalizedFrom = [] ∨ normalizedFrom = normalizedTo then .ok ()
  else if isTransitionDefined overrides entity normalizedFrom normalizedTo then .ok ()
  else .error (.valueError ("Transition '" ++ normalizedFrom ++ "' -> '" ++
    normalizedTo ++ "' is not allowed"))

def ensureRuleTransitionAllowed (overrides : PolicyOverrides) (fromStatus : Option Text)
    (toStatus : String) : Except RepositoryError Unit :=
  ensureTransitionAllowed overrides .rule fromStatus toStatus.toList

def ensureRuleLifecycleTransitionAllowed (overrides : PolicyOverrides) (fromStatus : Option Text)
    (toStatus : Text) : Except RepositoryError Unit :=
  ensureTransitionAllowed overrides .ruleLifecycle fromStatus toStatus

/-- `str(value or "").strip() or None`. -/
def strippedOrNone (value : Option Text) : Option Text :=
  let stripped := Text.strip (value.getD [])
  if stripped = [] then none else some stripped

/-- `str(value or "").strip().lower().replace("_", "-") or "transition"`. -/
def normalizeRuleAuditAction (value : Text) : Text :=
  let normalized := normalizeStatusValue (some value)
  if normalized = [] then "transition" else normalized

def inferRuleTransitionAction (toStatus : Text) : Text :=
  let actionMap : List (String × String) :=
    [("approved", "approve"), ("rejected", "reject"), ("activated", "activate"),
     ("deactivated", "deactivate"), ("deprecated", "deprecate"), ("superseded", "supersede"),
     ("retired", "retire"), ("removed", "remove"), ("recovered", "recover")]
  match actionMap.find? fun entry => entry.1.toList = normalizeStatusValue (some toStatus) with
  | some entry => entry.2.toList
  | none => "transition"

def ruleLifecycleAction (lifecycleStatus : Text) : Text :=
  let actionMap : List (String × String) :=
    [("active", "activate"), ("deprecated", "deprecate"), ("superseded", "supersede"),
     ("retired", "retire")]
  match actionMap.find? fun entry =>
    entry.1.toList = normalizeStatusValue (some lifecycleStatus) with
  | some entry => entry.2.toList
  | none => "transition"

/-- The row that `_record_status_transition` appends, if any. -/
def statusHistoryRow? (now : Instant) (action : Text) (fromStatus : Option Text) (toStatus : Text)
    (changedBy : Option Text) (reason : Option Text) (details : Option Dict)
    (allowSameStatus : Bool) : Option StatusHistoryRow :=
  let normalizedFrom := normalizeRuleStatus fromStatus
  let normalizedTo := normalizeRuleStatus (some toStatus)
  if normalizedTo = [] then none
  else if normalizedFrom ≠ [] ∧ normalizedFrom = normalizedTo ∧ !allowSameStatus then none
  else some {
    action := normalizeRuleAuditAction action
    fromStatus := if normalizedFrom = [] then none else some normalizedFrom
    toStatus := normalizedTo
    changedBy := strippedOrNone changedBy
    changedAt := now
    reason := reason
    details := details }

/-- `_record_status_transition`. The rows stand in the order of their times. -/
def StoredRule.recordTransition (r : StoredRule) (now : Instant) (action : Text)
    (fromStatus : Option Text) (toStatus : Text) (changedBy : Option Text) (reason : Option Text)
    (details : Option Dict := none) (allowSameStatus : Bool := false) : StoredRule :=
  { r with history := r.history ++
      (statusHistoryRow? now action fromStatus toStatus changedBy reason details
        allowSameStatus).toList }

@[simp] theorem StoredRule.recordTransition_versions (r : StoredRule) (now : Instant)
    (action : Text) (fromStatus : Option Text) (toStatus : Text) (changedBy reason : Option Text)
    (details : Option Dict) (same : Bool) :
    (r.recordTransition now action fromStatus toStatus changedBy reason details same).versions =
      r.versions := rfl

end Statuses

end Lifecycle

end DqMadeEasy
