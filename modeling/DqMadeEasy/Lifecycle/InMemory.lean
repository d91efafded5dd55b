import DqMadeEasy.Lifecycle.Rule

/-!
# The in-memory rules repository

The methods that write: creation and edits, the lifecycle methods, version rollback, and the rows
of the audit trail. A method returns its result or raises, and leaves a repository in both cases.
A method of one rule is a function on what is stored of it, lifted to the repository.
-/

namespace DqMadeEasy

namespace Lifecycle

namespace InMemory

/-- The repository. The map of users holds the administrator from its construction on. -/
structure Repository where
  rules : List (Text × StoredRule)
  users : List Text
  admin_mem : "user-admin".toList ∈ users

/-- The parts of `RuleRecordEntity` that its readers in the use cases look at. -/
structure RuleRecord where
  id : Text
  expression : Text
  active : Bool
  isTemplate : Bool
  lastApprovalStatus : Option Text
  removedAt : Option Instant
  checkType : Option Text
  deriving DecidableEq

/-- What `execute_rule_rollback` returns of the versions. -/
structure RollbackReceipt where
  id : Text
  fromVersion : Text × ℕ
  toVersion : Text × ℕ
  newVersion : Text × ℕ
  newVersionStatus : String
  deriving DecidableEq

namespace Repository

/-- `self._rules.get(rule_id)`, with the details and versions. -/
def find? (repo : Repository) (ruleId : Text) : Option StoredRule := Assoc.find? repo.rules ruleId

def put (repo : Repository) (ruleId : Text) (r : StoredRule) : Repository :=
  { repo with rules := Assoc.update ruleId (fun _ => r) repo.rules }

/-- `user if user in self._users else "user-admin"`. -/
def actor (repo : Repository) (user : Text) : Text :=
  if user ∈ repo.users then user else "user-admin"

@[simp] theorem find?_put_self (repo : Repository) (ruleId : Text) (r : StoredRule) :
    (repo.put ruleId r).find? ruleId = some r := by
  rw [find?, put, Assoc.find?_update, if_pos rfl]

theorem find?_put_of_ne {repo : Repository} {ruleId other : Text} {r : StoredRule}
    (h : other ≠ ruleId) : (repo.put ruleId r).find? other = repo.find? other := by
  rw [find?, put, Assoc.find?_update, if_neg (Ne.symm h), find?]

end Repository

/-! ### Listing -/

/-- The record of a rule. -/
def ruleRecord (ruleId : Text) (r : StoredRule) : RuleRecord where
  id := ruleId
  expression := Text.strip r.entity.expression
  active := r.entity.active
  isTemplate := r.details.isTemplate
  lastApprovalStatus := strippedOrNone
    (r.details.lastApprovalStatus.or (if r.entity.active then some "approved" else none))
  removedAt := r.details.removedAt
  checkType := strippedOrNone r.details.checkType

/-- `_list_rule_payloads` without a query. The rows are sorted by time and id; their readers look
for an id. -/
def Repository.listRules (repo : Repository) (workspace : Option Text) (includeDeleted : Bool)
    (isTemplate : Option Bool) : List RuleRecord :=
  if workspace.getD [] ≠ [] ∧ workspace ≠ some "default".toList then []
  else (repo.rules.filter fun entry =>
      (isTemplate.all fun flag => flag == entry.2.details.isTemplate) &&
        (includeDeleted || entry.2.details.removedAt.isNone)).map fun entry =>
    ruleRecord entry.1 entry.2

/-- `next((row for row in rows if row["id"] == rule_id), None)` on the rules of a workspace. -/
def Repository.listed (repo : Repository) (workspace : Text) (ruleId : Text)
    (includeDeleted : Bool := false) : Option RuleRecord :=
  (repo.listRules (some (if workspace = [] then "default" else workspace)) includeDeleted
    none).find? fun row => row.id = ruleId

/-- A method of one rule: `None` if there is no such rule. -/
def Repository.method (repo : Repository) (ruleId : Text)
    (change : StoredRule → Except RepositoryError (Option StoredRule))
    (result : Repository → StoredRule → Option RuleRecord) :
    Except RepositoryError (Option RuleRecord) × Repository :=
  match repo.find? ruleId with
  | none => (.ok none, repo)
  | some r =>
    match change r with
    | .error e => (.error e, repo)
    | .ok none => (.ok none, repo)
    | .ok (some r') => (.ok (result (repo.put ruleId r') r'), repo.put ruleId r')

/-- A method leaves the repository as it was, or stores what it made of its rule. -/
theorem Repository.method_cases (repo : Repository) (ruleId : Text)
    (change : StoredRule → Except RepositoryError (Option StoredRule))
    (result : Repository → StoredRule → Option RuleRecord) :
    (repo.method ruleId change result).2 = repo ∨
      ∃ r r', repo.find? ruleId = some r ∧ change r = .ok (some r') ∧
        (repo.method ruleId change result).2 = repo.put ruleId r' := by
  rw [method]
  split
  · exact .inl rfl
  · rename_i r hfind
    split
    · exact .inl rfl
    · exact .inl rfl
    · rename_i r' hchange
      exact .inr ⟨r, r', hfind, hchange, rfl⟩

section Methods

variable [PyRuntime]

/-! ### Creation and edits -/

/-- The version row of a creation or an edit. -/
def versionRow (now : Instant) (number : ℕ) (createdBy : Text) (changeType : String)
    (changeDescription : String) (tags : List Text) (fields : RuleFields) : VersionRow where
  id := versionId number
  versionNumber := number
  createdAt := now
  createdBy := createdBy
  changeType := changeType
  changeDescription := changeDescription.toList
  tags := tags
  rule := {
    name := fields.name
    description := some fields.description
    comments := fields.comments
    expression := fields.expression
    dimension := fields.dimension
    active := fields.active
    dsl := fields.dsl
    taxonomy := fields.taxonomy
    checkType := fields.checkType
    checkTypeParams := fields.checkTypeParams }

/-- What `_create_rule_payload` stores. -/
def createdRule (now : Instant) (creatorId : Text) (origin : Origin) (fields : RuleFields) :
    StoredRule :=
  StoredRule.recordTransition {
    entity := {
      name := fields.name
      description := fields.description
      comments := fields.comments
      expression := fields.expression
      dimension := fields.dimension
      active := fields.active
      createdByUserId := creatorId
      tagIds := [] }
    details := {
      workspace := origin.workspace
      lifecycleStatus := some "active"
      generated := origin.generated
      isTemplate := origin.isTemplate
      templateId := origin.templateId
      suggestionId := origin.suggestionId
      comments := none
      dsl := fields.dsl
      taxonomy := fields.taxonomy
      joinConditions := fields.joinConditions
      aliasMappings := fields.aliasMappings
      reusableJoinId := fields.reusableJoinId
      manualOverrideBy := fields.manualOverrideBy
      manualOverrideAt := fields.manualOverrideAt
      checkType := fields.checkType
      checkTypeParams := fields.checkTypeParams
      reusableFilterIds := fields.reusableFilterIds
      validationStatus := none
      lastApprovalStatus := none
      lastApprovalBy := none
      removedAt := none
      removedBy := none }
    versions := [versionRow now 1 creatorId "created" "Rule created" [] fields]
    rollbacks := []
    history := [] } now "create" none
      (if fields.active then "activated" else "draft") (some creatorId)
      (some "Rule created") none true

/-- `create_rule_record`, with the id that `uuid4` drew. The row of the new rule is looked up with
the last row as default, so a workspace whose rows are not listed raises. -/
def createRuleRecord (ruleId : Text) (now : Instant) (origin : Origin) (fields : RuleFields)
    (repo : Repository) : Except RepositoryError RuleRecord × Repository :=
  let repo' := repo.put ruleId (createdRule now (repo.actor origin.createdBy) origin fields)
  let rows := repo'.listRules (some origin.workspace) false none
  match rows.getLast? with
  | none => (.error .indexError, repo')
  | some last => (.ok ((rows.find? fun row => row.id = ruleId).getD last), repo')

/-- The status that an edit asks for. -/
def desiredStatus (fromStatus : Text) (wasActive active : Bool) : Text :=
  if active && !wasActive then "activated"
  else if !active && wasActive then "deactivated"
  else if fromStatus = "deactivated" then "draft"
  else fromStatus

/-- What `_update_rule_payload` stores. -/
def updatedRule (overrides : PolicyOverrides) (now : Instant) (fields : RuleFields)
    (r : StoredRule) : Except RepositoryError (Option StoredRule) := do
  let fromStatus := r.currentStatus
  ensureTransitionAllowed overrides .rule (some fromStatus)
    (desiredStatus fromStatus r.entity.active fields.active)
  let changed : StoredRule := { r with
    versions := versionRow now (nextVersionNumber r.versions) r.entity.createdByUserId "modified"
      "Rule updated" r.entity.tagIds fields :: r.versions
    entity := {
      name := fields.name
      description := fields.description
      comments := fields.comments
      expression := fields.expression
      dimension := fields.dimension
      active := fields.active
      lifecycleStatus := (strippedOrNone r.details.lifecycleStatus).getD "active"
      createdByUserId := r.entity.createdByUserId
      tagIds := r.entity.tagIds }
    details := { r.details with
      dsl := fields.dsl
      taxonomy := fields.taxonomy
      comments := fields.comments
      joinConditions := fields.joinConditions
      aliasMappings := fields.aliasMappings
      reusableJoinId := fields.reusableJoinId
      manualOverrideBy := fields.manualOverrideBy
      manualOverrideAt := fields.manualOverrideAt
      checkType := fields.checkType
      checkTypeParams := fields.checkTypeParams
      validationStatus := none
      lastApprovalStatus :=
        if fromStatus = "deactivated" then some "draft"
        else r.details.lastApprovalStatus
      reusableFilterIds := fields.reusableFilterIds } }
  return some (changed.recordTransition now "edit" (some fromStatus) changed.currentStatus
    (some r.entity.createdByUserId) (some "Rule updated") none true)

def updateRuleRecord (overrides : PolicyOverrides) (ruleId : Text) (now : Instant)
    (fields : RuleFields) (repo : Repository) :
    Except RepositoryError (Option RuleRecord) × Repository :=
  repo.method ruleId (updatedRule overrides now fields) fun repo' r =>
    repo'.listed r.details.workspace ruleId

/-! ### Lifecycle -/

/-- The entity that a lifecycle method writes: the constructor's defaults replace what it is not
given. -/
def lifecycleEntity (r : StoredRule) (comments : Option Text) (active : Bool) : RuleEntity where
  name := r.entity.name
  description := r.entity.description
  comments := comments
  expression := r.entity.expression
  dimension := r.entity.dimension
  active := active
  createdByUserId := r.entity.createdByUserId
  tagIds := r.entity.tagIds

/-- What `_activate_rule_payload` stores. -/
def activatedRule (overrides : PolicyOverrides) (now : Instant) (r : StoredRule) :
    Except RepositoryError (Option StoredRule) := do
  ensureRuleTransitionAllowed overrides (some r.currentStatus) "activated"
  return some (StoredRule.recordTransition { r with
    entity := lifecycleEntity r (strippedOrNone r.details.comments) true
    details := { r.details with
      validationStatus := some "valid"
      lastApprovalStatus := some "approved" } } now "activate"
    (some r.currentStatus) "activated" (some r.entity.createdByUserId)
    (some "Rule activated"))

/-- The payload of a rule that the listing leaves out. -/
def unlistedRecord (ruleId : Text) (active : Bool) (lastApprovalStatus : Option Text)
    (removedAt : Option Instant) : RuleRecord where
  id := ruleId
  expression := []
  active := active
  isTemplate := false
  lastApprovalStatus := lastApprovalStatus
  removedAt := removedAt
  checkType := none

def activateRuleRecord (overrides : PolicyOverrides) (ruleId : Text) (now : Instant)
    (repo : Repository) : Except RepositoryError (Option RuleRecord) × Repository :=
  repo.method ruleId (activatedRule overrides now) fun repo' r =>
    some ((repo'.listed r.details.workspace ruleId).getD (unlistedRecord ruleId true none none))

/-- What `deactivate_rule` stores. -/
def deactivatedRule (overrides : PolicyOverrides) (now : Instant) (r : StoredRule) :
    Except RepositoryError (Option StoredRule) := do
  ensureRuleTransitionAllowed overrides (some r.currentStatus) "deactivated"
  return some (StoredRule.recordTransition { r with
    entity := lifecycleEntity r none false
    details := { r.details with lastApprovalStatus := some "deactivated" } } now
    "deactivate" (some r.currentStatus) "deactivated"
    (some r.entity.createdByUserId) (some "Rule deactivated"))

def deactivateRule (overrides : PolicyOverrides) (ruleId : Text) (now : Instant)
    (repo : Repository) : Except RepositoryError (Option RuleRecord) × Repository :=
  repo.method ruleId (deactivatedRule overrides now) fun repo' r =>
    some ((repo'.listed r.details.workspace ruleId).getD
      (unlistedRecord ruleId false (some "deactivated") none))

/-- What `_soft_delete_rule_payload` stores. -/
def softDeletedRule (overrides : PolicyOverrides) (now : Instant) (removedBy : Text)
    (r : StoredRule) : Except RepositoryError (Option StoredRule) := do
  raiseIf r.details.removedAt.isSome (.valueError "Rule is already removed")
  raiseIf r.entity.active (.valueError "Rule must be deactivated before it can be removed")
  raiseIf (normalizeStatusValue r.details.lastApprovalStatus ≠ "deactivated")
    (.valueError "Rule must be in deactivated status before it can be removed")
  ensureRuleTransitionAllowed overrides (some r.currentStatus) "removed"
  return some (StoredRule.recordTransition { r with
    details := { r.details with
      removedAt := some now
      removedBy := some removedBy
      lastApprovalStatus := some "removed" } } now "remove"
    (some r.currentStatus) "removed" (some removedBy) (some "Rule removed"))

def softDeleteRuleRecord (overrides : PolicyOverrides) (ruleId : Text) (now : Instant)
    (removedBy : Text) (repo : Repository) :
    Except RepositoryError (Option RuleRecord) × Repository :=
  repo.method ruleId (softDeletedRule overrides now removedBy) fun repo' r =>
    some ((repo'.listed r.details.workspace ruleId true).getD
      (unlistedRecord ruleId false (some "removed") (some now)))

/-- What `recover_rule` stores. -/
def recoveredRule (overrides : PolicyOverrides) (now : Instant) (recoveredBy : Text)
    (r : StoredRule) : Except RepositoryError (Option StoredRule) := do
  raiseIf r.details.removedAt.isNone (.valueError "Rule is not removed")
  ensureRuleTransitionAllowed overrides (some r.currentStatus) "recovered"
  return some (StoredRule.recordTransition { r with
    entity := lifecycleEntity r none false
    details := { r.details with
      removedAt := none
      removedBy := none
      lastApprovalStatus := some "recovered" } } now "recover"
    (some r.currentStatus) "recovered" (some recoveredBy) (some "Rule recovered"))

def recoverRule (overrides : PolicyOverrides) (ruleId : Text) (now : Instant) (recoveredBy : Text)
    (repo : Repository) : Except RepositoryError (Option RuleRecord) × Repository :=
  repo.method ruleId (recoveredRule overrides now recoveredBy) fun repo' r =>
    some ((repo'.listed r.details.workspace ruleId).getD
      (unlistedRecord ruleId false (some "recovered") none))

def currentLifecycleStatus (r : StoredRule) : Text :=
  (strippedOrNone r.details.lifecycleStatus).getD "active"

/-- What `set_rule_lifecycle_status` stores. -/
def lifecycleRule (overrides : PolicyOverrides) (now : Instant) (lifecycleStatus : Text)
    (changedBy reason : Option Text) (r : StoredRule) :
    Except RepositoryError (Option StoredRule) :=
  if r.details.removedAt.isSome then .ok none else do
  let target := canonicalizeStatusValue .ruleLifecycle (some lifecycleStatus)
  raiseIf (target = []) (.valueError "Lifecycle status is required")
  raiseIf (target = "retired" ∧ r.entity.active)
    (.valueError "Active rules must be deactivated before they can be retired")
  ensureRuleLifecycleTransitionAllowed overrides (some (currentLifecycleStatus r)) target
  let versions := match r.versions with
    | [] => []
    | row :: rows => { row with rule := { row.rule with lifecycleStatus := some target } } :: rows
  return some (StoredRule.recordTransition { r with
    details := { r.details with lifecycleStatus := some target }
    versions := versions } now (ruleLifecycleAction target) (some (currentLifecycleStatus r))
    target changedBy
    (if reason.getD [] = [] then some ("Lifecycle status set to " ++ target) else reason))

def setRuleLifecycleStatus (overrides : PolicyOverrides) (ruleId : Text) (now : Instant)
    (lifecycleStatus : Text) (changedBy reason : Option Text) (repo : Repository) :
    Except RepositoryError (Option RuleRecord) × Repository :=
  repo.method ruleId (lifecycleRule overrides now lifecycleStatus changedBy reason) fun repo' r =>
    repo'.listed r.details.workspace ruleId

end Methods

end InMemory

end Lifecycle

end DqMadeEasy
