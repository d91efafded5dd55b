import DqMadeEasy.Lifecycle.InMemory

/-!
# Versions, audit rows and templates

The rest of the methods that write to the in-memory repository, and the steps of a repository: one
call of one method with any arguments. The use cases and endpoints reach the repository only through
these methods. The ids of new rules are drawn by `uuid4` and are new to the repository; the statuses
that the approval and the testing endpoints record are fixed in those endpoints.
-/

namespace DqMadeEasy

namespace Lifecycle

namespace InMemory

section Methods

variable [PyRuntime]

/-! ### Rollback -/

/-- The version row of a rollback. -/
def rollbackVersionRow (now : Instant) (actorId reason : Text) (tags : Option (List Text))
    (number : ℕ) (target : VersionRow) : VersionRow where
  id := versionId number
  versionNumber := number
  createdAt := now
  createdBy := actorId
  changeType := "rollback"
  changeDescription := reason
  tags := if (tags.getD []).isEmpty then ["rollback"] else tags.getD []
  rule := target.rule

/-- The entity that a rollback to a snapshot writes. -/
def rollbackEntity (actorId : Text) (description : Option Text) (snapshot : RuleSnapshot)
    (r : StoredRule) : RuleEntity where
  name := snapshot.name
  description := description
  expression := snapshot.expression
  dimension := snapshot.dimension
  active := snapshot.active
  createdByUserId := actorId
  tagIds := r.entity.tagIds

/-- The rows that a rollback inserts before it reads the snapshot. -/
def rollbackRows (now : Instant) (actorId reason : Text) (tags : Option (List Text))
    (current target : VersionRow) (r : StoredRule) : StoredRule :=
  let number := nextVersionNumber r.versions
  { r with
    versions := rollbackVersionRow now actorId reason tags number target :: r.versions
    rollbacks := {
      id := rollbackId number
      rolledBackAt := now
      rolledBackBy := actorId
      reason := reason
      fromVersionNumber := current.versionNumber
      toVersionNumber := target.versionNumber
      newVersionNumber := number } :: r.rollbacks }

/-- What a rollback to a snapshot stores besides its rows. -/
def restored (actorId : Text) (description : Option Text) (snapshot : RuleSnapshot)
    (r : StoredRule) : StoredRule :=
  { r with
    entity := rollbackEntity actorId description snapshot r
    details := { r.details with
      dsl := snapshot.dsl
      taxonomy := snapshot.taxonomy
      checkType := snapshot.checkType
      checkTypeParams := snapshot.checkTypeParams } }

/-- The current version of a rule and the one to restore. -/
def rollbackVersions (ruleId toVersionId : Text) (r : StoredRule) :
    Except RepositoryError (VersionRow × VersionRow) :=
  match r.versions with
  | [] => .error (.lookupError ("No versions found for rule '" ++ ruleId ++ ['\'']))
  | current :: _ => do
    raiseIf (current.id = toVersionId)
      (.valueError "Cannot rollback to the current version")
    let target ← orRaise (r.versions.find? fun row => row.id = toVersionId)
      (.lookupError ("Version '" ++ toVersionId ++ "' not found for rule '" ++ ruleId
        ++ ['\'']))
    return (current, target)

/-- `execute_rule_rollback` on what is stored of the rule. The rows are inserted before the snapshot
is read. -/
def rolledBackRule (now : Instant) (ruleId toVersionId actorId reason : Text) (skipApproval : Bool)
    (tags : Option (List Text)) (r : StoredRule) :
    Except RepositoryError RollbackReceipt × StoredRule :=
  match rollbackVersions ruleId toVersionId r with
  | .error e => (.error e, r)
  | .ok (current, target) =>
    let moved := rollbackRows now actorId reason tags current target r
    match target.rule.description with
    | none => (.error (.keyError "description"), moved)
    | some description =>
      (.ok {
        id := rollbackId (nextVersionNumber r.versions)
        fromVersion := (current.id, current.versionNumber)
        toVersion := (target.id, target.versionNumber)
        newVersion := (versionId (nextVersionNumber r.versions), nextVersionNumber r.versions)
        newVersionStatus := if skipApproval then "activated" else "pending_approval" },
       restored actorId description target.rule moved)

def rollbackTarget? (ruleId toVersionId : Text) (r : StoredRule) : Option RuleSnapshot :=
  match rollbackVersions ruleId toVersionId r with
  | .error _ => none
  | .ok (_, target) => target.rule.description.map fun _ => target.rule

omit [PyRuntime] in
/-- A rollback that does not get that far raises, with the rule as it was but for its rows. -/
theorem rolledBackRule_of_none {ruleId toVersionId : Text} {r : StoredRule} (now : Instant)
    (actorId reason : Text) (skipApproval : Bool) (tags : Option (List Text))
    (h : rollbackTarget? ruleId toVersionId r = none) :
    ∃ e, (rolledBackRule now ruleId toVersionId actorId reason skipApproval tags r).1 = .error e ∧
      (rolledBackRule now ruleId toVersionId actorId reason skipApproval tags r).2.entity =
        r.entity ∧
      (rolledBackRule now ruleId toVersionId actorId reason skipApproval tags r).2.details =
        r.details := by
  rw [rollbackTarget?] at h
  rw [rolledBackRule]
  cases hversions : rollbackVersions ruleId toVersionId r with
  | error e => exact ⟨e, rfl, rfl, rfl⟩
  | ok versions =>
    obtain ⟨current, target⟩ := versions
    rw [hversions] at h
    have hdescription : target.rule.description = none := Option.map_eq_none_iff.mp h
    simp only [hdescription]
    exact ⟨_, rfl, rfl, rfl⟩

omit [PyRuntime] in
/-- A rollback that gets that far restores the snapshot. -/
theorem rolledBackRule_of_some {ruleId toVersionId : Text} {r : StoredRule}
    {snapshot : RuleSnapshot} (now : Instant) (actorId reason : Text) (skipApproval : Bool)
    (tags : Option (List Text)) (h : rollbackTarget? ruleId toVersionId r = some snapshot) :
    ∃ current target description receipt,
      rollbackVersions ruleId toVersionId r = .ok (current, target) ∧ target.rule = snapshot ∧
      rolledBackRule now ruleId toVersionId actorId reason skipApproval tags r =
        (.ok receipt, restored actorId description snapshot
          (rollbackRows now actorId reason tags current target r)) := by
  rw [rollbackTarget?] at h
  rw [rolledBackRule]
  cases hversions : rollbackVersions ruleId toVersionId r with
  | error e =>
    rw [hversions] at h
    cases h
  | ok versions =>
    obtain ⟨current, target⟩ := versions
    rw [hversions] at h
    obtain ⟨description, hdescription, rfl⟩ := Option.map_eq_some_iff.mp h
    simp only [hdescription]
    exact ⟨current, target, description, _, rfl, rfl, rfl⟩

/-- `requested_by_user_id or "system"`. -/
def requester (requestedByUserId : Option Text) : Text :=
  if requestedByUserId.getD [] = [] then "system" else requestedByUserId.getD []

def executeRuleRollback (ruleId : Text) (now : Instant) (toVersionId reason : Text)
    (requestedByUserId : Option Text) (skipApproval : Bool) (tags : Option (List Text))
    (repo : Repository) : Except RepositoryError (Option RollbackReceipt) × Repository :=
  match repo.find? ruleId with
  | none => (.ok none, repo)
  | some r =>
    let outcome := rolledBackRule now ruleId toVersionId (repo.actor (requester requestedByUserId))
      reason skipApproval tags r
    (outcome.1.map some, repo.put ruleId outcome.2)

/-! ### Version rows -/

/-- The rows with the first one of an id changed. -/
def changeVersion (versionId : Text) (change : VersionRow → VersionRow) :
    List VersionRow → List VersionRow
  | [] => []
  | row :: rows =>
    if row.id = versionId then change row :: rows else row :: changeVersion versionId change rows

/-- A method that changes one version row: `None` if there is no such rule or row. -/
def versionMethod (ruleId versionId : Text) (change : VersionRow → VersionRow) (repo : Repository) :
    Option VersionRow × Repository :=
  match repo.find? ruleId with
  | none => (none, repo)
  | some r =>
    match r.versions.find? fun row => row.id = versionId with
    | none => (none, repo)
    | some row =>
      (some (change row),
        repo.put ruleId { r with versions := changeVersion versionId change r.versions })

def updateRuleVersionTags (ruleId versionId : Text) (tags : List Text) (repo : Repository) :
    Option VersionRow × Repository :=
  versionMethod ruleId versionId (fun row => { row with tags := tags }) repo

def markRuleVersionForRollback (ruleId versionId : Text) (marked : Bool) (repo : Repository) :
    Option VersionRow × Repository :=
  versionMethod ruleId versionId (fun row => { row with markedForRollback := marked }) repo

def setCurrentRuleVersionValidation (ruleId : Text) (now : Instant) (validationStatus : Text)
    (validatedBy : Option Text) (repo : Repository) : Option VersionRow × Repository :=
  match repo.find? ruleId with
  | none => (none, repo)
  | some r =>
    match r.versions with
    | [] => (none, repo)
    | row :: rows =>
      let row' := { row with
        validationStatus := strippedOrNone (some validationStatus)
        validatedAt := some now
        validatedByUserId := strippedOrNone validatedBy }
      (some row', repo.put ruleId { r with versions := row' :: rows })

/-! ### Audit rows -/

def recordRuleAuditEvent (ruleId : Text) (now : Instant) (action : Text)
    (fromStatus toStatus changedBy reason : Option Text) (eventDetails : Option Dict)
    (repo : Repository) : Option StatusHistoryRow × Repository :=
  match repo.find? ruleId with
  | none => (none, repo)
  | some r =>
    let resultingStatus := if toStatus.getD [] = [] then r.currentStatus else toStatus.getD []
    (statusHistoryRow? now action fromStatus resultingStatus changedBy reason eventDetails true,
      repo.put ruleId (r.recordTransition now action fromStatus resultingStatus changedBy reason
        eventDetails true))

/-- What `record_rule_status_transition` stores. -/
def transitionedRule (overrides : PolicyOverrides) (now : Instant) (fromStatus : Option Text)
    (toStatus : Text) (changedBy reason : Option Text) (r : StoredRule) :
    Except RepositoryError StoredRule := do
  ensureTransitionAllowed overrides .rule fromStatus toStatus
  let normalizedTo := normalizeRuleStatus (some toStatus)
  let recorded : StoredRule := if normalizedTo = [] then r else { r with
    details := { r.details with
      lastApprovalStatus := some normalizedTo
      lastApprovalBy := strippedOrNone changedBy } }
  return recorded.recordTransition now (inferRuleTransitionAction normalizedTo) fromStatus toStatus
    changedBy reason

def recordRuleStatusTransition (overrides : PolicyOverrides) (ruleId : Text) (now : Instant)
    (fromStatus : Option Text) (toStatus : Text) (changedBy reason : Option Text)
    (repo : Repository) : Except RepositoryError (Option StatusHistoryRow) × Repository :=
  match repo.find? ruleId with
  | none => (.ok none, repo)
  | some r =>
    match transitionedRule overrides now fromStatus toStatus changedBy reason r with
    | .error e => (.error e, repo)
    | .ok r' =>
      (.ok (statusHistoryRow? now (inferRuleTransitionAction (normalizeRuleStatus (some toStatus)))
        fromStatus toStatus changedBy reason none false), repo.put ruleId r')

/-! ### Templates -/

/-- What `save_rule_as_template` stores. -/
def templateRule (now : Instant) (sourceId creatorId templateName : Text)
    (templateDescription : Option Text) (source : StoredRule) : StoredRule :=
  StoredRule.recordTransition {
    entity := {
      name := templateName
      description := templateDescription
      expression := source.entity.expression
      dimension := source.entity.dimension
      active := false
      createdByUserId := creatorId
      tagIds := source.entity.tagIds }
    details := {
      workspace := source.details.workspace
      lifecycleStatus := none
      generated := false
      isTemplate := true
      templateId := some sourceId
      suggestionId := none
      comments := none
      dsl := source.details.dsl
      taxonomy := source.details.taxonomy
      joinConditions := source.details.joinConditions
      aliasMappings := source.details.aliasMappings
      reusableJoinId := source.details.reusableJoinId
      manualOverrideBy := source.details.manualOverrideBy
      manualOverrideAt := source.details.manualOverrideAt
      checkType := none
      checkTypeParams := none
      reusableFilterIds := source.details.reusableFilterIds
      validationStatus := none
      lastApprovalStatus := none
      lastApprovalBy := none
      removedAt := none
      removedBy := none }
    versions := []
    rollbacks := []
    history := [] } now "create" none "draft" (some creatorId)
      (some "Template created") none true

/-- `save_rule_as_template`, with the id that `uuid4` drew. -/
def saveRuleAsTemplate (templateId : Text) (now : Instant) (ruleId templateName : Text)
    (templateDescription : Option Text) (createdBy : Text) (repo : Repository) :
    Option RuleRecord × Repository :=
  match repo.find? ruleId with
  | none => (none, repo)
  | some source =>
    let repo' := repo.put templateId
      (templateRule now ruleId (repo.actor createdBy) templateName templateDescription source)
    (some ((repo'.listed source.details.workspace templateId).getD
      (unlistedRecord templateId false none none)), repo')

/-! ### Steps -/

/-- The repository after a call, whether the call returned or raised. -/
def perform (overrides : PolicyOverrides) (repo : Repository) : Operation → Repository
  | .create ruleId now origin fields => (createRuleRecord ruleId now origin fields repo).2
  | .update ruleId now fields => (updateRuleRecord overrides ruleId now fields repo).2
  | .activate ruleId now => (activateRuleRecord overrides ruleId now repo).2
  | .deactivate ruleId now => (deactivateRule overrides ruleId now repo).2
  | .softDelete ruleId now removedBy =>
    (softDeleteRuleRecord overrides ruleId now removedBy repo).2
  | .recover ruleId now recoveredBy => (recoverRule overrides ruleId now recoveredBy repo).2
  | .setLifecycleStatus ruleId now lifecycleStatus changedBy reason =>
    (setRuleLifecycleStatus overrides ruleId now lifecycleStatus changedBy reason repo).2
  | .rollback ruleId now toVersionId reason requestedByUserId skipApproval tags =>
    (executeRuleRollback ruleId now toVersionId reason requestedByUserId skipApproval tags repo).2
  | .updateVersionTags ruleId versionId tags => (updateRuleVersionTags ruleId versionId tags repo).2
  | .markForRollback ruleId versionId marked =>
    (markRuleVersionForRollback ruleId versionId marked repo).2
  | .setVersionValidation ruleId now validationStatus validatedBy =>
    (setCurrentRuleVersionValidation ruleId now validationStatus validatedBy repo).2
  | .recordAuditEvent ruleId now action fromStatus toStatus changedBy reason eventDetails =>
    (recordRuleAuditEvent ruleId now action fromStatus toStatus changedBy reason eventDetails
      repo).2
  | .recordStatusTransition ruleId now fromStatus toStatus changedBy reason =>
    (recordRuleStatusTransition overrides ruleId now fromStatus toStatus.text changedBy reason
      repo).2
  | .saveAsTemplate templateId now ruleId templateName templateDescription createdBy =>
    (saveRuleAsTemplate templateId now ruleId templateName templateDescription createdBy repo).2

def Step (overrides : PolicyOverrides) (repo : Repository) (op : Operation) (repo' : Repository) :
    Prop :=
  (∀ ruleId, op.newId? = some ruleId → repo.find? ruleId = none) ∧ repo' = perform overrides repo op

/-- What a call stores of a rule that it adds. -/
inductive Born (repo : Repository) : Operation → Text → StoredRule → Prop
  | create (ruleId : Text) (now : Instant) (origin : Origin) (fields : RuleFields) :
      Born repo (.create ruleId now origin fields) ruleId
        (createdRule now (repo.actor origin.createdBy) origin fields)
  | template (templateId : Text) (now : Instant) {ruleId : Text} (templateName : Text)
      (templateDescription : Option Text) (createdBy : Text) {source : StoredRule} :
      repo.find? ruleId = some source →
      Born repo (.saveAsTemplate templateId now ruleId templateName templateDescription createdBy)
        templateId (templateRule now ruleId (repo.actor createdBy) templateName templateDescription
          source)

/-- How a call changes what is stored of a rule that is there. -/
inductive Changed (overrides : PolicyOverrides) (repo : Repository) :
    Operation → Text → StoredRule → StoredRule → Prop
  | update {ruleId : Text} {now : Instant} {fields : RuleFields} {r r' : StoredRule} :
      updatedRule overrides now fields r = .ok (some r') →
      Changed overrides repo (.update ruleId now fields) ruleId r r'
  | activate {ruleId : Text} {now : Instant} {r r' : StoredRule} :
      activatedRule overrides now r = .ok (some r') →
      Changed overrides repo (.activate ruleId now) ruleId r r'
  | deactivate {ruleId : Text} {now : Instant} {r r' : StoredRule} :
      deactivatedRule overrides now r = .ok (some r') →
      Changed overrides repo (.deactivate ruleId now) ruleId r r'
  | softDelete {ruleId : Text} {now : Instant} {removedBy : Text} {r r' : StoredRule} :
      softDeletedRule overrides now removedBy r = .ok (some r') →
      Changed overrides repo (.softDelete ruleId now removedBy) ruleId r r'
  | recover {ruleId : Text} {now : Instant} {recoveredBy : Text} {r r' : StoredRule} :
      recoveredRule overrides now recoveredBy r = .ok (some r') →
      Changed overrides repo (.recover ruleId now recoveredBy) ruleId r r'
  | setLifecycleStatus {ruleId : Text} {now : Instant} {lifecycleStatus : Text}
      {changedBy reason : Option Text} {r r' : StoredRule} :
      lifecycleRule overrides now lifecycleStatus changedBy reason r = .ok (some r') →
      Changed overrides repo (.setLifecycleStatus ruleId now lifecycleStatus changedBy reason)
        ruleId r r'
  | rollback {ruleId : Text} {now : Instant} {toVersionId reason : Text}
      {requestedByUserId : Option Text} {skipApproval : Bool} {tags : Option (List Text)}
      (r : StoredRule) :
      Changed overrides repo
        (.rollback ruleId now toVersionId reason requestedByUserId skipApproval tags) ruleId r
        (rolledBackRule now ruleId toVersionId (repo.actor (requester requestedByUserId)) reason
          skipApproval tags r).2
  | version {op : Operation} {ruleId : Text} (r : StoredRule) {versions : List VersionRow} :
      versions.map VersionRow.core = r.versions.map VersionRow.core →
      Changed overrides repo op ruleId r { r with versions := versions }
  | recordAuditEvent {op : Operation} {ruleId : Text} (now : Instant) (action : Text)
      (fromStatus : Option Text) (toStatus : Text) (changedBy reason : Option Text)
      (eventDetails : Option Dict) (r : StoredRule) :
      Changed overrides repo op ruleId r
        (r.recordTransition now action fromStatus toStatus changedBy reason eventDetails true)
  | recordStatusTransition {ruleId : Text} {now : Instant} {fromStatus : Option Text}
      {toStatus : WorkflowStatus} {changedBy reason : Option Text} {r r' : StoredRule} :
      transitionedRule overrides now fromStatus toStatus.text changedBy reason r = .ok r' →
      Changed overrides repo
        (.recordStatusTransition ruleId now fromStatus toStatus changedBy reason) ruleId r r'

omit [PyRuntime] in
theorem map_core_changeVersion {change : VersionRow → VersionRow}
    (hchange : ∀ row, (change row).core = row.core) (versionId : Text) (rows : List VersionRow) :
    (changeVersion versionId change rows).map VersionRow.core = rows.map VersionRow.core := by
  induction rows with
  | nil => rfl
  | cons row rows ih =>
    rw [changeVersion]
    split
    · rw [List.map_cons, List.map_cons, hchange]
    · rw [List.map_cons, List.map_cons, ih]

theorem versionMethod_cases (overrides : PolicyOverrides) (op : Operation) (ruleId versionId : Text)
    {change : VersionRow → VersionRow} (hchange : ∀ row, (change row).core = row.core)
    (repo : Repository) :
    (versionMethod ruleId versionId change repo).2 = repo ∨
      ∃ r r', repo.find? ruleId = some r ∧ Changed overrides repo op ruleId r r' ∧
        (versionMethod ruleId versionId change repo).2 = repo.put ruleId r' := by
  rw [versionMethod]
  split
  · exact .inl rfl
  · rename_i r hfind
    split
    · exact .inl rfl
    · exact .inr ⟨r, _, hfind, .version r (map_core_changeVersion hchange versionId _), rfl⟩

/-- A call leaves the repository as it was, adds one rule, or changes one. -/
theorem perform_cases (overrides : PolicyOverrides) (repo : Repository) (op : Operation) :
    perform overrides repo op = repo ∨
      (∃ ruleId r', op.newId? = some ruleId ∧ Born repo op ruleId r' ∧
        perform overrides repo op = repo.put ruleId r') ∨
      ∃ ruleId r r', repo.find? ruleId = some r ∧ Changed overrides repo op ruleId r r' ∧
        perform overrides repo op = repo.put ruleId r' := by
  cases op with
  | create ruleId now origin fields =>
    right; left
    refine ⟨ruleId, _, rfl, .create ruleId now origin fields, ?_⟩
    show (createRuleRecord ruleId now origin fields repo).2 = _
    rw [createRuleRecord]
    split
    · rfl
    · rfl
  | update ruleId now fields =>
    obtain h | ⟨r, r', hfind, hchange, h⟩ := repo.method_cases ruleId _ _
    · exact .inl h
    · exact .inr (.inr ⟨ruleId, r, r', hfind, .update hchange, h⟩)
  | activate ruleId now =>
    obtain h | ⟨r, r', hfind, hchange, h⟩ := repo.method_cases ruleId _ _
    · exact .inl h
    · exact .inr (.inr ⟨ruleId, r, r', hfind, .activate hchange, h⟩)
  | deactivate ruleId now =>
    obtain h | ⟨r, r', hfind, hchange, h⟩ := repo.method_cases ruleId _ _
    · exact .inl h
    · exact .inr (.inr ⟨ruleId, r, r', hfind, .deactivate hchange, h⟩)
  | softDelete ruleId now removedBy =>
    obtain h | ⟨r, r', hfind, hchange, h⟩ := repo.method_cases ruleId _ _
    · exact .inl h
    · exact .inr (.inr ⟨ruleId, r, r', hfind, .softDelete hchange, h⟩)
  | recover ruleId now recoveredBy =>
    obtain h | ⟨r, r', hfind, hchange, h⟩ := repo.method_cases ruleId _ _
    · exact .inl h
    · exact .inr (.inr ⟨ruleId, r, r', hfind, .recover hchange, h⟩)
  | setLifecycleStatus ruleId now lifecycleStatus changedBy reason =>
    obtain h | ⟨r, r', hfind, hchange, h⟩ := repo.method_cases ruleId _ _
    · exact .inl h
    · exact .inr (.inr ⟨ruleId, r, r', hfind, .setLifecycleStatus hchange, h⟩)
  | rollback ruleId now toVersionId reason requestedByUserId skipApproval tags =>
    cases hfind : repo.find? ruleId with
    | none =>
      left
      show (executeRuleRollback ruleId now toVersionId reason requestedByUserId skipApproval tags
        repo).2 = _
      rw [executeRuleRollback, hfind]
    | some r =>
      right; right
      refine ⟨ruleId, r, _, hfind, .rollback r, ?_⟩
      show (executeRuleRollback ruleId now toVersionId reason requestedByUserId skipApproval tags
        repo).2 = _
      rw [executeRuleRollback, hfind]
  | updateVersionTags ruleId versionId tags =>
    have hcore : ∀ row : VersionRow, VersionRow.core { row with tags := tags } = row.core :=
      fun _ => rfl
    obtain h | ⟨r, r', hfind, hchange, h⟩ := versionMethod_cases overrides
      (.updateVersionTags ruleId versionId tags) ruleId versionId hcore repo
    · exact .inl h
    · exact .inr (.inr ⟨ruleId, r, r', hfind, hchange, h⟩)
  | markForRollback ruleId versionId marked =>
    have hcore : ∀ row : VersionRow,
        VersionRow.core { row with markedForRollback := marked } = row.core := fun _ => rfl
    obtain h | ⟨r, r', hfind, hchange, h⟩ := versionMethod_cases overrides
      (.markForRollback ruleId versionId marked) ruleId versionId hcore repo
    · exact .inl h
    · exact .inr (.inr ⟨ruleId, r, r', hfind, hchange, h⟩)
  | setVersionValidation ruleId now validationStatus validatedBy =>
    rw [perform, setCurrentRuleVersionValidation]
    split
    · exact .inl rfl
    · rename_i r hfind
      split
      · exact .inl rfl
      · rename_i row rows hrows
        refine .inr (.inr ⟨ruleId, r, _, hfind, .version r ?_, rfl⟩)
        rw [hrows]
        rfl
  | recordAuditEvent ruleId now action fromStatus toStatus changedBy reason eventDetails =>
    rw [perform, recordRuleAuditEvent]
    split
    · exact .inl rfl
    · rename_i r hfind
      exact .inr (.inr ⟨ruleId, r, _, hfind,
        .recordAuditEvent now action fromStatus _ changedBy reason eventDetails r, rfl⟩)
  | recordStatusTransition ruleId now fromStatus toStatus changedBy reason =>
    rw [perform, recordRuleStatusTransition]
    split
    · exact .inl rfl
    · rename_i r hfind
      split
      · exact .inl rfl
      · rename_i r' hchange
        exact .inr (.inr ⟨ruleId, r, r', hfind, .recordStatusTransition hchange, rfl⟩)
  | saveAsTemplate templateId now ruleId templateName templateDescription createdBy =>
    rw [perform, saveRuleAsTemplate]
    split
    · exact .inl rfl
    · rename_i source hfind
      exact .inr (.inl ⟨templateId, _, rfl,
        .template templateId now templateName templateDescription createdBy hfind, rfl⟩)

/-- A rule that is there after a step was added by it, or was there before and is as it was or
changed. -/
theorem step_entry {overrides : PolicyOverrides} {repo repo' : Repository} {op : Operation}
    {ruleId : Text} {r' : StoredRule} (hstep : Step overrides repo op repo')
    (h : repo'.find? ruleId = some r') :
    (repo.find? ruleId = none ∧ Born repo op ruleId r') ∨
      ∃ r, repo.find? ruleId = some r ∧ (r' = r ∨ Changed overrides repo op ruleId r r') := by
  obtain ⟨hfresh, rfl⟩ := hstep
  obtain hsame | ⟨added, r₀, hnew, hborn, hput⟩ | ⟨target, r, r₀, hfind, hchanged, hput⟩ :=
    perform_cases overrides repo op
  · rw [hsame] at h
    exact .inr ⟨r', h, .inl rfl⟩
  · rw [hput] at h
    by_cases hid : ruleId = added
    · subst hid
      rw [Repository.find?_put_self] at h
      cases h
      exact .inl ⟨hfresh ruleId hnew, hborn⟩
    · rw [Repository.find?_put_of_ne hid] at h
      exact .inr ⟨r', h, .inl rfl⟩
  · rw [hput] at h
    by_cases hid : ruleId = target
    · subst hid
      rw [Repository.find?_put_self] at h
      cases h
      exact .inr ⟨r, hfind, .inr hchanged⟩
    · rw [Repository.find?_put_of_ne hid] at h
      exact .inr ⟨r', h, .inl rfl⟩

/-- A rule that is there before a step is there after it, as it was or changed. -/
theorem step_find {overrides : PolicyOverrides} {repo repo' : Repository} {op : Operation}
    {ruleId : Text} {r : StoredRule} (hstep : Step overrides repo op repo')
    (h : repo.find? ruleId = some r) :
    ∃ r', repo'.find? ruleId = some r' ∧ (r' = r ∨ Changed overrides repo op ruleId r r') := by
  have hkept : ∃ r', repo'.find? ruleId = some r' := by
    have hput : ∀ target r₀, ∃ r', (repo.put target r₀).find? ruleId = some r' := by
      intro target r₀
      by_cases hid : ruleId = target
      · rw [hid]
        exact ⟨r₀, Repository.find?_put_self repo target r₀⟩
      · exact ⟨r, (Repository.find?_put_of_ne hid).trans h⟩
    rw [hstep.2]
    obtain hsame | ⟨target, r₀, -, -, hnew⟩ | ⟨target, -, r₀, -, -, hnew⟩ :=
      perform_cases overrides repo op
    · rw [hsame]
      exact ⟨r, h⟩
    · rw [hnew]
      exact hput target r₀
    · rw [hnew]
      exact hput target r₀
  obtain ⟨r', hr'⟩ := hkept
  obtain ⟨hnone, -⟩ | ⟨q, hq, hentry⟩ := step_entry hstep hr'
  · rw [h] at hnone
    cases hnone
  · rw [h] at hq
    cases hq
    exact ⟨r', hr', hentry⟩

end Methods

end InMemory

end Lifecycle

end DqMadeEasy
