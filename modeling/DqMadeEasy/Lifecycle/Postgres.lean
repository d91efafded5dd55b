import DqMadeEasy.Lifecycle.Versions

/-!
# The Postgres rules repository

The methods that write to the tables of rules, versions, version pointers, rollbacks, reusable
filters and status history. A method works in one session: it changes nothing unless it reaches its
commit. What the tables hold of a rule stands in one record; columns with a JSON text are kept as
the value that the text denotes, and null flags and counters as false and zero, as the methods read
them. Ids of new rows are drawn by `uuid4`.
-/

namespace DqMadeEasy

namespace Lifecycle

namespace Postgres

/-- `RuleRow`. -/
structure RuleRow where
  name : Text
  description : Option Text
  comments : Option Text := none
  expression : Text
  dimension : Text
  active : Bool
  generated : Bool
  isTemplate : Bool
  templateId : Option Text
  workspace : Text
  createdBy : Text
  suggestionId : Option Text
  lastApprovalBy : Option Text := none
  lastApprovalStatus : Option Text := none
  lastApprovalAt : Option Instant := none
  lifecycleStatus : Option Text := none
  deletedOn : Option Instant := none
  deletedBy : Option Text := none
  dsl : Option Dict
  taxonomy : Option Dict
  dataSteward : Option Text := none
  domainOwner : Option Text := none
  technicalOwner : Option Text := none
  joinConditions : List Dict
  aliasMappings : Dict
  reusableJoinId : Option Text
  validationStatus : Option Text := none
  validatedAt : Option Instant := none
  checkType : Option Text
  checkTypeParams : Option Dict
  manualOverrideBy : Option Text := none
  manualOverrideAt : Option Instant := none
  totalVersions : ℕ := 1
  versionCreatedAt : Instant
  versionUpdatedAt : Instant

/-- `RuleVersionRow`. -/
structure RuleVersionRow where
  id : Text
  versionNumber : ℕ
  createdAt : Instant
  createdBy : Text
  changeType : String
  changeDescription : Text
  name : Text
  description : Option Text
  expression : Text
  dimension : Text
  active : Bool
  isTemplate : Bool
  templateId : Option Text
  dsl : Option Dict
  taxonomy : Option Dict
  dataSteward : Option Text := none
  domainOwner : Option Text := none
  technicalOwner : Option Text := none
  lifecycleStatus : Option Text := none
  checkType : Option Text
  checkTypeParams : Option Dict
  tags : Option (List Text) := none
  markedForRollback : Bool := false
  validationStatus : Option Text := none
  validatedAt : Option Instant := none
  validatedBy : Option Text := none

/-- `RuleRollbackRow`. -/
structure RuleRollbackRow where
  id : Text
  fromVersionId : Text
  toVersionId : Text
  rolledBackBy : Text
  rolledBackAt : Instant
  reason : Text
  newVersionCreatedId : Text

/-- The rows of a rule in all tables. -/
structure StoredRows where
  row : RuleRow
  versions : List RuleVersionRow
  currentVersionId : Option Text
  rollbacks : List RuleRollbackRow
  history : List StatusHistoryRow
  reusableFilterIds : List Text

abbrev Tables := List (Text × StoredRows)

def Tables.find? (tables : Tables) (ruleId : Text) : Option StoredRows := Assoc.find? tables ruleId

def Tables.put (tables : Tables) (ruleId : Text) (rows : StoredRows) : Tables :=
  Assoc.update ruleId (fun _ => rows) tables

@[simp] theorem Tables.find?_put_self (tables : Tables) (ruleId : Text) (rows : StoredRows) :
    (tables.put ruleId rows).find? ruleId = some rows := by
  rw [Tables.find?, Tables.put, Assoc.find?_update, if_pos rfl]

theorem Tables.find?_put_of_ne {tables : Tables} {ruleId other : Text} {rows : StoredRows}
    (h : other ≠ ruleId) : (tables.put ruleId rows).find? other = tables.find? other := by
  rw [Tables.find?, Tables.put, Assoc.find?_update, if_neg (Ne.symm h), Tables.find?]

/-- A method of one rule in a session. It returns the row of which its payload is a rendering. -/
def Tables.method (tables : Tables) (ruleId : Text)
    (change : StoredRows → Except RepositoryError (Option StoredRows)) :
    Except RepositoryError (Option RuleRow) × Tables :=
  match tables.find? ruleId with
  | none => (.ok none, tables)
  | some rows =>
    match change rows with
    | .error e => (.error e, tables)
    | .ok none => (.ok none, tables)
    | .ok (some rows') => (.ok (some rows'.row), tables.put ruleId rows')

theorem Tables.method_cases (tables : Tables) (ruleId : Text)
    (change : StoredRows → Except RepositoryError (Option StoredRows)) :
    (tables.method ruleId change).2 = tables ∨
      ∃ rows rows', tables.find? ruleId = some rows ∧ change rows = .ok (some rows') ∧
        (tables.method ruleId change).2 = tables.put ruleId rows' := by
  rw [method]
  split
  · exact .inl rfl
  · rename_i rows hfind
    split
    · exact .inl rfl
    · exact .inl rfl
    · rename_i rows' hchange
      exact .inr ⟨rows, rows', hfind, hchange, rfl⟩

section Methods

variable [PyRuntime] [PyNumerals]

/-- `_derive_rule_status_from_row`. -/
def RuleRow.deriveRuleStatus (row : RuleRow) : Text :=
  ruleStatusOf row.deletedOn.isSome row.active row.lastApprovalStatus

/-- `_append_rule_status_history_row`. -/
def StoredRows.appendHistory (rows : StoredRows) (now : Instant) (action : Text)
    (fromStatus : Option Text) (toStatus : Text) (changedBy : Option Text) (reason : Option Text)
    (details : Option Dict := none) (allowSameStatus : Bool := false) : StoredRows :=
  { rows with history := rows.history ++
      (statusHistoryRow? now action fromStatus toStatus changedBy reason details
        allowSameStatus).toList }

def taxonomyText (taxonomy : Option Dict) (keys : List String) : Option Text :=
  keys.findSome? fun key =>
    let value := Dict.get (taxonomy.getD []) key
    if value.isNone ∨ Text.strip value.str = [] then none else some (Text.strip value.str)

/-- `value or other` of a text that may be missing. -/
def orText (value : Option Text) (other : Text) : Text :=
  if value.getD [] = [] then other else value.getD []

/-! ### Creation and edits -/

/-- `{value for value in ids if value}`, sorted. -/
def filterLinks (ids : List Text) : List Text :=
  ((ids.filter (· ≠ [])).dedup.map String.ofList).mergeSort.map String.toList

/-- The version row of a creation or an edit. -/
def versionRow (id : Text) (now : Instant) (number : ℕ) (createdBy : Text) (changeType : String)
    (changeDescription : String) (lifecycleStatus : Text) (tags : Option (List Text))
    (fields : RuleFields) (row : RuleRow) : RuleVersionRow where
  id := id
  versionNumber := number
  createdAt := now
  createdBy := createdBy
  changeType := changeType
  changeDescription := changeDescription.toList
  name := fields.name
  description := fields.description
  expression := fields.expression
  dimension := fields.dimension
  active := fields.active
  isTemplate := row.isTemplate
  templateId := row.templateId
  dsl := fields.dsl
  taxonomy := fields.taxonomy
  dataSteward := (taxonomyText fields.taxonomy ["data_steward", "owner"]).or
    (strippedOrNone (some row.createdBy))
  domainOwner := taxonomyText fields.taxonomy ["domain_owner"]
  technicalOwner := taxonomyText fields.taxonomy ["technical_owner"]
  lifecycleStatus := some lifecycleStatus
  checkType := fields.checkType
  checkTypeParams := fields.checkTypeParams
  tags := tags

/-- The rows that `_create_rule_payload` adds. -/
def createdRows (versionId : Text) (now : Instant) (origin : Origin)
    (fields : RuleFields) : StoredRows :=
  let row : RuleRow := {
    name := fields.name
    description := fields.description
    comments := fields.comments
    expression := fields.expression
    dimension := fields.dimension
    active := fields.active
    generated := origin.generated
    isTemplate := origin.isTemplate
    templateId := origin.templateId
    workspace := origin.workspace
    createdBy := origin.createdBy
    suggestionId := origin.suggestionId
    lifecycleStatus := some "active"
    dsl := fields.dsl
    taxonomy := fields.taxonomy
    dataSteward := some ((taxonomyText fields.taxonomy ["data_steward", "owner"]).getD
      origin.createdBy)
    domainOwner := taxonomyText fields.taxonomy ["domain_owner"]
    technicalOwner := taxonomyText fields.taxonomy ["technical_owner"]
    joinConditions := fields.joinConditions
    aliasMappings := fields.aliasMappings
    reusableJoinId := fields.reusableJoinId
    manualOverrideBy := fields.manualOverrideBy
    manualOverrideAt := fields.manualOverrideAt
    checkType := fields.checkType
    checkTypeParams := fields.checkTypeParams
    totalVersions := 1
    versionCreatedAt := now
    versionUpdatedAt := now }
  StoredRows.appendHistory {
    row := row
    versions := [versionRow versionId now 1 origin.createdBy "created" "Rule created"
      "active" (some []) fields row]
    currentVersionId := some versionId
    rollbacks := []
    history := []
    reusableFilterIds := filterLinks fields.reusableFilterIds } now "create" none
    (if fields.active then "activated" else "draft") (some origin.createdBy)
    (some "Rule created") none true

def createRuleRecord (ruleId versionId : Text) (now : Instant) (origin : Origin)
    (fields : RuleFields) (tables : Tables) : Except RepositoryError RuleRow × Tables :=
  let rows := createdRows versionId now origin fields
  (.ok rows.row, tables.put ruleId rows)

def RuleRow.currentLifecycleStatus (row : RuleRow) : Text :=
  (strippedOrNone row.lifecycleStatus).getD "active"

/-- `changed_by=row.last_approval_by or row.created_by`. -/
def RuleRow.changedBy (row : RuleRow) : Option Text :=
  some (orText row.lastApprovalBy row.createdBy)

/-- What `_update_rule_payload` stores. The name `created_by` that stands in for a missing data
steward is not defined in the method. -/
def updatedRows (overrides : PolicyOverrides) (versionId : Text) (now : Instant)
    (fields : RuleFields) (rows : StoredRows) : Except RepositoryError (Option StoredRows) :=
  if rows.row.deletedOn.isSome then .ok none else do
  let fromStatus := rows.row.deriveRuleStatus
  ensureTransitionAllowed overrides .rule (some fromStatus)
    (InMemory.desiredStatus fromStatus rows.row.active fields.active)
  let steward ← orRaise (taxonomyText fields.taxonomy ["data_steward", "owner"])
    (.nameError "created_by")
  let number := rows.row.totalVersions + 1
  let row : RuleRow := { rows.row with
    name := fields.name
    description := fields.description
    comments := fields.comments
    expression := fields.expression
    dimension := fields.dimension
    active := fields.active
    dsl := fields.dsl
    taxonomy := fields.taxonomy
    dataSteward := some steward
    domainOwner := taxonomyText fields.taxonomy ["domain_owner"]
    technicalOwner := taxonomyText fields.taxonomy ["technical_owner"]
    joinConditions := fields.joinConditions
    aliasMappings := fields.aliasMappings
    reusableJoinId := fields.reusableJoinId
    manualOverrideBy := fields.manualOverrideBy
    manualOverrideAt := fields.manualOverrideAt
    checkType := fields.checkType
    checkTypeParams := fields.checkTypeParams
    lastApprovalStatus :=
      if fromStatus = "deactivated" then some "draft"
      else rows.row.lastApprovalStatus
    validationStatus := none
    validatedAt := none
    totalVersions := number
    versionCreatedAt := now
    versionUpdatedAt := now }
  let changed : StoredRows := { rows with
    row := row
    versions := versionRow versionId now number (orText (some rows.row.createdBy) "system")
      "modified" "Rule updated" rows.row.currentLifecycleStatus none fields rows.row ::
        rows.versions
    currentVersionId := some versionId
    reusableFilterIds := filterLinks fields.reusableFilterIds }
  return some (changed.appendHistory now "edit" (some fromStatus) row.deriveRuleStatus
    rows.row.changedBy (some "Rule updated") none true)

def updateRuleRecord (overrides : PolicyOverrides) (ruleId versionId : Text) (now : Instant)
    (fields : RuleFields) (tables : Tables) : Except RepositoryError (Option RuleRow) × Tables :=
  tables.method ruleId (updatedRows overrides versionId now fields)

/-! ### Lifecycle -/

/-- What `_activate_rule_payload` stores. -/
def activatedRows (overrides : PolicyOverrides) (now : Instant) (rows : StoredRows) :
    Except RepositoryError (Option StoredRows) :=
  if rows.row.deletedOn.isSome then .ok none else do
  let fromStatus := rows.row.deriveRuleStatus
  ensureRuleTransitionAllowed overrides (some fromStatus) "activated"
  return some (StoredRows.appendHistory { rows with
    row := { rows.row with
      active := true
      lastApprovalStatus := some "approved"
      validationStatus := some (orText rows.row.validationStatus "valid")
      validatedAt := some (rows.row.validatedAt.getD now)
      versionUpdatedAt := now } } now "activate" (some fromStatus) "activated"
    rows.row.changedBy (some "Rule activated"))

def activateRuleRecord (overrides : PolicyOverrides) (ruleId : Text) (now : Instant)
    (tables : Tables) : Except RepositoryError (Option RuleRow) × Tables :=
  tables.method ruleId (activatedRows overrides now)

/-- What `deactivate_rule` stores. -/
def deactivatedRows (overrides : PolicyOverrides) (now : Instant) (rows : StoredRows) :
    Except RepositoryError (Option StoredRows) :=
  if rows.row.deletedOn.isSome then .ok none else do
  let fromStatus := rows.row.deriveRuleStatus
  ensureRuleTransitionAllowed overrides (some fromStatus) "deactivated"
  return some (StoredRows.appendHistory { rows with
    row := { rows.row with
      active := false
      lastApprovalStatus := some "deactivated"
      versionUpdatedAt := now } } now "deactivate" (some fromStatus) "deactivated"
    rows.row.changedBy (some "Rule deactivated"))

def deactivateRule (overrides : PolicyOverrides) (ruleId : Text) (now : Instant)
    (tables : Tables) : Except RepositoryError (Option RuleRow) × Tables :=
  tables.method ruleId (deactivatedRows overrides now)

/-- What `_soft_delete_rule_payload` stores. -/
def softDeletedRows (overrides : PolicyOverrides) (now : Instant) (removedBy : Text)
    (rows : StoredRows) : Except RepositoryError (Option StoredRows) := do
  raiseIf rows.row.deletedOn.isSome (.valueError "Rule is already removed")
  raiseIf rows.row.active (.valueError "Rule must be deactivated before it can be removed")
  let fromStatus := rows.row.deriveRuleStatus
  raiseIf (normalizeStatusValue rows.row.lastApprovalStatus ≠ "deactivated")
    (.valueError "Rule must be in deactivated status before it can be removed")
  ensureRuleTransitionAllowed overrides (some fromStatus) "removed"
  return some (StoredRows.appendHistory { rows with
    row := { rows.row with
      deletedOn := some now
      deletedBy := some removedBy
      lastApprovalStatus := some "removed"
      versionUpdatedAt := now } } now "remove" (some fromStatus) "removed"
    (some removedBy) (some "Rule removed"))

def softDeleteRuleRecord (overrides : PolicyOverrides) (ruleId : Text) (now : Instant)
    (removedBy : Text) (tables : Tables) : Except RepositoryError (Option RuleRow) × Tables :=
  tables.method ruleId (softDeletedRows overrides now removedBy)

/-- What `recover_rule` stores. -/
def recoveredRows (overrides : PolicyOverrides) (now : Instant) (recoveredBy : Text)
    (rows : StoredRows) : Except RepositoryError (Option StoredRows) := do
  raiseIf rows.row.deletedOn.isNone (.valueError "Rule is not removed")
  let fromStatus := rows.row.deriveRuleStatus
  ensureRuleTransitionAllowed overrides (some fromStatus) "recovered"
  return some (StoredRows.appendHistory { rows with
    row := { rows.row with
      deletedOn := none
      deletedBy := none
      active := false
      lastApprovalBy := some recoveredBy
      lastApprovalAt := some now
      lastApprovalStatus := some "recovered"
      versionUpdatedAt := now } } now "recover" (some fromStatus) "recovered"
    (some recoveredBy) (some "Rule recovered"))

def recoverRule (overrides : PolicyOverrides) (ruleId : Text) (now : Instant) (recoveredBy : Text)
    (tables : Tables) : Except RepositoryError (Option RuleRow) × Tables :=
  tables.method ruleId (recoveredRows overrides now recoveredBy)

def changeVersion (versionId : Text) (change : RuleVersionRow → RuleVersionRow)
    (versions : List RuleVersionRow) : List RuleVersionRow :=
  versions.map fun row => if row.id = versionId then change row else row

/-- What `set_rule_lifecycle_status` stores. -/
def lifecycleRows (overrides : PolicyOverrides) (now : Instant) (lifecycleStatus : Text)
    (changedBy reason : Option Text) (rows : StoredRows) :
    Except RepositoryError (Option StoredRows) :=
  if rows.row.deletedOn.isSome then .ok none else do
  let current := canonicalizeStatusValue .ruleLifecycle rows.row.lifecycleStatus
  let current := if current = [] then "active".toList else current
  let target := canonicalizeStatusValue .ruleLifecycle (some lifecycleStatus)
  raiseIf (target = []) (.valueError "Lifecycle status is required".toList)
  raiseIf (target = "retired".toList ∧ rows.row.deriveRuleStatus = "activated".toList)
    (.valueError "Active rules must be deactivated before they can be retired".toList)
  ensureRuleLifecycleTransitionAllowed overrides (some current) target
  let versions := match rows.currentVersionId with
    | some id => changeVersion id (fun row => { row with lifecycleStatus := some target })
        rows.versions
    | none => rows.versions
  return some (StoredRows.appendHistory { rows with
    row := { rows.row with lifecycleStatus := some target }
    versions := versions } now (ruleLifecycleAction target) (some current) target changedBy
    (if reason.getD [] = [] then some ("Lifecycle status set to ".toList ++ target) else reason))

def setRuleLifecycleStatus (overrides : PolicyOverrides) (ruleId : Text) (now : Instant)
    (lifecycleStatus : Text) (changedBy reason : Option Text) (tables : Tables) :
    Except RepositoryError (Option RuleRow) × Tables :=
  tables.method ruleId (lifecycleRows overrides now lifecycleStatus changedBy reason)

/-! ### Rollback -/

/-- The version row of a rollback. -/
def rollbackVersionRow (versionId : Text) (now : Instant) (actorId : Text)
    (tags : Option (List Text)) (number : ℕ) (target : RuleVersionRow) : RuleVersionRow where
  id := versionId
  versionNumber := number
  createdAt := now
  createdBy := actorId
  changeType := "rollback"
  changeDescription := "Rollback from version " ++ (toString target.versionNumber).toList
  name := target.name
  description := target.description
  expression := target.expression
  dimension := target.dimension
  active := target.active
  isTemplate := target.isTemplate
  templateId := target.templateId
  dsl := target.dsl
  taxonomy := target.taxonomy
  checkType := target.checkType
  checkTypeParams := target.checkTypeParams
  tags := tags

/-- What `execute_rule_rollback` stores. -/
def rolledBackRows (ruleId versionId rollbackId : Text) (now : Instant)
    (toVersionId actorId reason : Text) (tags : Option (List Text)) (rows : StoredRows) :
    Except RepositoryError (Option StoredRows) :=
  if rows.row.deletedOn.isSome then .ok none else do
  raiseIf (rows.currentVersionId.getD [] = toVersionId)
    (.valueError "Cannot rollback to the current version")
  raiseIf (rows.currentVersionId.getD [] = [])
    (.valueError "Rule has no current version to rollback from")
  let target ← orRaise (rows.versions.find? fun version => version.id = toVersionId)
    (.lookupError ("Version '" ++ toVersionId ++ "' not found for rule '" ++ ruleId ++
      ['\'']))
  let number := (if rows.row.totalVersions = 0 then 1 else rows.row.totalVersions) + 1
  return some { rows with
    row := { rows.row with
      name := target.name
      description := target.description
      expression := target.expression
      dimension := target.dimension
      active := target.active
      dsl := target.dsl
      taxonomy := target.taxonomy
      checkType := target.checkType
      checkTypeParams := target.checkTypeParams
      totalVersions := number
      versionUpdatedAt := now }
    versions := rollbackVersionRow versionId now actorId tags number target :: rows.versions
    currentVersionId := some versionId
    rollbacks := {
      id := rollbackId
      fromVersionId := rows.currentVersionId.getD []
      toVersionId := toVersionId
      rolledBackBy := actorId
      rolledBackAt := now
      reason := reason
      newVersionCreatedId := versionId } :: rows.rollbacks }

/-- `execute_rule_rollback`; of its result, the restored row. -/
def executeRuleRollback (ruleId versionId rollbackId : Text) (now : Instant)
    (toVersionId reason : Text) (requestedByUserId : Option Text) (tags : Option (List Text))
    (tables : Tables) : Except RepositoryError (Option RuleRow) × Tables :=
  let actorId := (strippedOrNone requestedByUserId).getD "user-admin"
  tables.method ruleId
    (rolledBackRows ruleId versionId rollbackId now toVersionId actorId reason tags)

/-! ### Version and audit rows -/

/-- `update_rule_version_tags` and `mark_rule_version_for_rollback`. -/
def changedVersionRows (versionId : Text) (change : RuleVersionRow → RuleVersionRow)
    (rows : StoredRows) : Except RepositoryError (Option StoredRows) :=
  if (rows.versions.find? fun version => version.id = versionId).isNone then .ok none
  else .ok (some { rows with versions := changeVersion versionId change rows.versions })

/-- What `set_current_rule_version_validation` stores. -/
def validatedRows (now : Instant) (validationStatus : Text) (validatedBy : Option Text)
    (rows : StoredRows) : Except RepositoryError (Option StoredRows) :=
  if rows.row.deletedOn.isSome then .ok none
  else
    match strippedOrNone rows.currentVersionId with
    | none => .ok none
    | some current =>
      if (rows.versions.find? fun version => version.id = current).isNone then .ok none
      else
        let status := strippedOrNone (some validationStatus)
        .ok (some { rows with
          row := { rows.row with validationStatus := status, validatedAt := some now }
          versions := changeVersion current (fun row => { row with
            validationStatus := status
            validatedAt := some now
            validatedBy := strippedOrNone validatedBy }) rows.versions })

/-- What `record_rule_audit_event` stores. -/
def auditedRows (now : Instant) (action : Text) (fromStatus toStatus changedBy reason : Option Text)
    (eventDetails : Option Dict) (rows : StoredRows) :
    Except RepositoryError (Option StoredRows) :=
  .ok (some (rows.appendHistory now action fromStatus (toStatus.getD rows.row.deriveRuleStatus)
    changedBy reason eventDetails true))

/-- What `record_rule_status_transition` stores. -/
def transitionedRows (overrides : PolicyOverrides) (now : Instant) (fromStatus : Option Text)
    (toStatus : Text) (changedBy reason : Option Text) (rows : StoredRows) :
    Except RepositoryError (Option StoredRows) := do
  ensureTransitionAllowed overrides .rule fromStatus toStatus
  let normalizedTo := normalizeRuleStatus (some toStatus)
  let recorded : StoredRows := if normalizedTo = [] then rows else { rows with
    row := { rows.row with
      lastApprovalStatus := some normalizedTo
      lastApprovalBy := strippedOrNone changedBy
      lastApprovalAt := some now } }
  return some (recorded.appendHistory now (inferRuleTransitionAction normalizedTo) fromStatus
    toStatus changedBy reason)

/-! ### Templates -/

/-- The rows that `save_rule_as_template` adds. -/
def templateRows (now : Instant) (sourceId createdBy templateName : Text)
    (templateDescription : Option Text) (source : RuleRow) : StoredRows :=
  StoredRows.appendHistory {
    row := {
      name := templateName
      description := templateDescription
      expression := source.expression
      dimension := source.dimension
      active := false
      generated := false
      isTemplate := true
      templateId := some sourceId
      workspace := source.workspace
      createdBy := createdBy
      suggestionId := none
      dsl := source.dsl
      taxonomy := source.taxonomy
      joinConditions := source.joinConditions
      aliasMappings := source.aliasMappings
      reusableJoinId := source.reusableJoinId
      checkType := source.checkType
      checkTypeParams := source.checkTypeParams
      versionCreatedAt := now
      versionUpdatedAt := now }
    versions := []
    currentVersionId := none
    rollbacks := []
    history := []
    reusableFilterIds := [] } now "create" none "draft" (some createdBy)
    (some "Template created") none true

def saveRuleAsTemplate (templateId : Text) (now : Instant) (ruleId templateName : Text)
    (templateDescription : Option Text) (createdBy : Text) (tables : Tables) :
    Option RuleRow × Tables :=
  match tables.find? ruleId with
  | none => (none, tables)
  | some source =>
    if source.row.deletedOn.isSome then (none, tables)
    else
      let rows := templateRows now ruleId createdBy templateName templateDescription source.row
      (some rows.row, tables.put templateId rows)

/-! ### Steps -/

/-- The ids that `uuid4` draws in a call for new versions and rollbacks. -/
structure Draws where
  versionId : Text
  rollbackId : Text

/-- What a call makes of its rule, for a call that adds no rule. -/
def changeOf (overrides : PolicyOverrides) (draws : Draws) :
    Operation → Option (Text × (StoredRows → Except RepositoryError (Option StoredRows)))
  | .create .. | .saveAsTemplate .. => none
  | .update ruleId now fields =>
    some (ruleId, updatedRows overrides draws.versionId now fields)
  | .activate ruleId now => some (ruleId, activatedRows overrides now)
  | .deactivate ruleId now => some (ruleId, deactivatedRows overrides now)
  | .softDelete ruleId now removedBy => some (ruleId, softDeletedRows overrides now removedBy)
  | .recover ruleId now recoveredBy => some (ruleId, recoveredRows overrides now recoveredBy)
  | .setLifecycleStatus ruleId now lifecycleStatus changedBy reason =>
    some (ruleId, lifecycleRows overrides now lifecycleStatus changedBy reason)
  | .rollback ruleId now toVersionId reason requestedByUserId _ tags =>
    some (ruleId, rolledBackRows ruleId draws.versionId draws.rollbackId now toVersionId
      ((strippedOrNone requestedByUserId).getD "user-admin") reason tags)
  | .updateVersionTags ruleId versionId tags =>
    some (ruleId, changedVersionRows versionId fun row => { row with tags := some tags })
  | .markForRollback ruleId versionId marked =>
    some (ruleId, changedVersionRows versionId fun row => { row with markedForRollback := marked })
  | .setVersionValidation ruleId now validationStatus validatedBy =>
    some (ruleId, validatedRows now validationStatus validatedBy)
  | .recordAuditEvent ruleId now action fromStatus toStatus changedBy reason eventDetails =>
    some (ruleId, auditedRows now action fromStatus toStatus changedBy reason eventDetails)
  | .recordStatusTransition ruleId now fromStatus toStatus changedBy reason =>
    some (ruleId, transitionedRows overrides now fromStatus toStatus.text changedBy reason)

/-- The tables after a call, whether the call returned or raised. -/
def perform (overrides : PolicyOverrides) (draws : Draws) (tables : Tables) : Operation → Tables
  | .create ruleId now origin fields =>
    (createRuleRecord ruleId draws.versionId now origin fields tables).2
  | .saveAsTemplate templateId now ruleId templateName templateDescription createdBy =>
    (saveRuleAsTemplate templateId now ruleId templateName templateDescription createdBy tables).2
  | op =>
    match changeOf overrides draws op with
    | some (ruleId, change) => (tables.method ruleId change).2
    | none => tables

def Step (overrides : PolicyOverrides) (tables : Tables) (op : Operation) (tables' : Tables) :
    Prop :=
  (∀ ruleId, op.newId? = some ruleId → tables.find? ruleId = none) ∧
    ∃ draws, tables' = perform overrides draws tables op

/-- What a call stores of a rule that it adds. -/
inductive Born (draws : Draws) (tables : Tables) : Operation → Text → StoredRows → Prop
  | create (ruleId : Text) (now : Instant) (origin : Origin) (fields : RuleFields) :
      Born draws tables (.create ruleId now origin fields) ruleId
        (createdRows draws.versionId now origin fields)
  | template (templateId : Text) (now : Instant) {ruleId : Text} (templateName : Text)
      (templateDescription : Option Text) (createdBy : Text) {source : StoredRows} :
      tables.find? ruleId = some source →
      Born draws tables
        (.saveAsTemplate templateId now ruleId templateName templateDescription createdBy)
        templateId (templateRows now ruleId createdBy templateName templateDescription source.row)

/-- A call leaves the tables as they were, adds one rule, or changes one. -/
theorem perform_cases (overrides : PolicyOverrides) (draws : Draws) (tables : Tables)
    (op : Operation) :
    perform overrides draws tables op = tables ∨
      (∃ ruleId rows', op.newId? = some ruleId ∧ Born draws tables op ruleId rows' ∧
        perform overrides draws tables op = tables.put ruleId rows') ∨
      ∃ ruleId change rows rows', changeOf overrides draws op = some (ruleId, change) ∧
        tables.find? ruleId = some rows ∧ change rows = .ok (some rows') ∧
        perform overrides draws tables op = tables.put ruleId rows' := by
  have hmethod : ∀ ruleId change, changeOf overrides draws op = some (ruleId, change) →
      perform overrides draws tables op = (tables.method ruleId change).2 →
      perform overrides draws tables op = tables ∨
      (∃ ruleId rows', op.newId? = some ruleId ∧ Born draws tables op ruleId rows' ∧
        perform overrides draws tables op = tables.put ruleId rows') ∨
      ∃ ruleId change rows rows', changeOf overrides draws op = some (ruleId, change) ∧
        tables.find? ruleId = some rows ∧ change rows = .ok (some rows') ∧
        perform overrides draws tables op = tables.put ruleId rows' := by
    intro ruleId change hop hperform
    rw [hperform]
    obtain h | ⟨rows, rows', hfind, hchange, h⟩ := tables.method_cases ruleId change
    · exact .inl h
    · exact .inr (.inr ⟨ruleId, change, rows, rows', hop, hfind, hchange, h⟩)
  cases op with
  | create ruleId now origin fields =>
    exact .inr (.inl ⟨ruleId, _, rfl, .create ruleId now origin fields, rfl⟩)
  | saveAsTemplate templateId now ruleId templateName templateDescription createdBy =>
    rw [perform, saveRuleAsTemplate]
    split
    · exact .inl rfl
    · rename_i source hfind
      split
      · exact .inl rfl
      · exact .inr (.inl ⟨templateId, _, rfl,
          .template templateId now templateName templateDescription createdBy hfind, rfl⟩)
  | _ => exact hmethod _ _ rfl rfl

/-- A rule that is there after a call was added by it, or was there before and is as it was or
changed. -/
theorem perform_entry {overrides : PolicyOverrides} {draws : Draws} {tables : Tables}
    {op : Operation} {ruleId : Text} {rows' : StoredRows}
    (hfresh : ∀ ruleId, op.newId? = some ruleId → tables.find? ruleId = none)
    (h : (perform overrides draws tables op).find? ruleId = some rows') :
    (tables.find? ruleId = none ∧ Born draws tables op ruleId rows') ∨
      ∃ rows, tables.find? ruleId = some rows ∧
        (rows' = rows ∨ ∃ change, changeOf overrides draws op = some (ruleId, change) ∧
          change rows = .ok (some rows')) := by
  obtain hsame | ⟨added, rows₀, hnew, hborn, hput⟩ |
      ⟨target, change, rows, rows₀, hop, hfind, hchange, hput⟩ :=
    perform_cases overrides draws tables op
  · rw [hsame] at h
    exact .inr ⟨rows', h, .inl rfl⟩
  · rw [hput] at h
    by_cases hid : ruleId = added
    · subst hid
      rw [Tables.find?_put_self] at h
      cases h
      exact .inl ⟨hfresh ruleId hnew, hborn⟩
    · rw [Tables.find?_put_of_ne hid] at h
      exact .inr ⟨rows', h, .inl rfl⟩
  · rw [hput] at h
    by_cases hid : ruleId = target
    · subst hid
      rw [Tables.find?_put_self] at h
      cases h
      exact .inr ⟨rows, hfind, .inr ⟨change, hop, hchange⟩⟩
    · rw [Tables.find?_put_of_ne hid] at h
      exact .inr ⟨rows', h, .inl rfl⟩

theorem step_entry {overrides : PolicyOverrides} {tables tables' : Tables} {op : Operation}
    {ruleId : Text} {rows' : StoredRows} (hstep : Step overrides tables op tables')
    (h : tables'.find? ruleId = some rows') :
    (tables.find? ruleId = none ∧ ∃ draws, Born draws tables op ruleId rows') ∨
      ∃ rows, tables.find? ruleId = some rows ∧
        (rows' = rows ∨ ∃ draws change, changeOf overrides draws op = some (ruleId, change) ∧
          change rows = .ok (some rows')) := by
  obtain ⟨hfresh, draws, rfl⟩ := hstep
  obtain ⟨hnone, hborn⟩ | ⟨rows, hrows, hsame | ⟨change, hop, hchange⟩⟩ := perform_entry hfresh h
  · exact .inl ⟨hnone, draws, hborn⟩
  · exact .inr ⟨rows, hrows, .inl hsame⟩
  · exact .inr ⟨rows, hrows, .inr ⟨draws, change, hop, hchange⟩⟩

end Methods

end Postgres

end Lifecycle

end DqMadeEasy
