import DqMadeEasy.Lifecycle.RuleState

/-!
# What lifecycle operations leave alone

An activation, a deactivation, a deletion or a recovery is about the status of a rule, and a
rollback is about its definition as well. The in-memory repository writes a new entity that it
builds from some of the fields of the old one, and the rest go back to the constructor's defaults.
-/

namespace DqMadeEasy

namespace Lifecycle

/-- A rule without its status, active, deletion and timestamp fields and without the audit rows of
its statuses. -/
def StoredRule.withoutStatus (r : StoredRule) : StoredRule :=
  { r with
    entity := { r.entity with active := false }
    details := { r.details with
      validationStatus := none
      lastApprovalStatus := none
      lastApprovalBy := none
      removedAt := none
      removedBy := none }
    history := [] }

/-- A rule without its definition, as far as versions hold it, and its version history either. -/
def StoredRule.withoutDefinition (r : StoredRule) : StoredRule :=
  let kept := r.withoutStatus
  { kept with
    entity := { kept.entity with name := [], description := none, expression := [], dimension := [] }
    details := { kept.details with
      dsl := none
      taxonomy := none
      checkType := none
      checkTypeParams := none }
    versions := []
    rollbacks := [] }

@[simp] theorem StoredRule.withoutStatus_recordTransition [PyRuntime] (r : StoredRule)
    (now : Instant) (action : Text) (fromStatus : Option Text) (toStatus : Text)
    (changedBy reason : Option Text) (details : Option Dict) (same : Bool) :
    (r.recordTransition now action fromStatus toStatus changedBy reason details
      same).withoutStatus = r.withoutStatus := rfl

namespace InMemory

/-- An operation on the status or on the definition of one rule. -/
inductive LifecycleCall where
  | activate (now : Instant)
  | deactivate (now : Instant)
  | softDelete (now : Instant) (removedBy : Text)
  | recover (now : Instant) (recoveredBy : Text)
  | rollback (now : Instant) (toVersionId reason : Text) (requestedByUserId : Option Text)
      (skipApproval : Bool) (tags : Option (List Text))

/-- The call of the repository's method. -/
def LifecycleCall.operation (ruleId : Text) : LifecycleCall → Operation
  | .activate now => .activate ruleId now
  | .deactivate now => .deactivate ruleId now
  | .softDelete now removedBy => .softDelete ruleId now removedBy
  | .recover now recoveredBy => .recover ruleId now recoveredBy
  | .rollback now toVersionId reason requestedByUserId skipApproval tags =>
    .rollback ruleId now toVersionId reason requestedByUserId skipApproval tags

/-- What is stored of the rule after the operation is as it was, but for what the operation is
about. -/
def LifecycleCall.Keeps : LifecycleCall → StoredRule → StoredRule → Prop
  | .rollback .., r, r' => r'.withoutDefinition = r.withoutDefinition
  | _, r, r' => r'.withoutStatus = r.withoutStatus

section Frame

variable [PyRuntime]

def Refuses (overrides : PolicyOverrides) (r : StoredRule) (toStatus : String) : Prop :=
  ensureRuleTransitionAllowed overrides (some r.currentStatus) toStatus ≠ .ok ()

def RebuiltWith (comments : Option Text) (r : StoredRule) : Prop :=
  r.entity.comments = comments ∧ r.entity.lifecycleStatus = "active"

/-- The operation is refused, or builds the fields that it is not about as they are. -/
def LifecycleCall.Harmless (overrides : PolicyOverrides) (repo : Repository) (ruleId : Text)
    (r : StoredRule) : LifecycleCall → Prop
  | .activate _ =>
    Refuses overrides r "activated" ∨ RebuiltWith (strippedOrNone r.details.comments) r
  | .deactivate _ => Refuses overrides r "deactivated" ∨ RebuiltWith none r
  | .softDelete _ _ => True
  | .recover _ _ =>
    r.details.removedAt = none ∨ Refuses overrides r "recovered" ∨ RebuiltWith none r
  | .rollback _ toVersionId _ requestedByUserId _ _ =>
    rollbackTarget? ruleId toVersionId r = none ∨
      (RebuiltWith none r ∧ repo.actor (requester requestedByUserId) = r.entity.createdByUserId)

variable {overrides : PolicyOverrides} {repo : Repository} {ruleId : Text} {r : StoredRule}

/-! ### Entities that are built anew -/

omit [PyRuntime] in
/-- The entity of a lifecycle method differs in what it does not take over. -/
theorem withoutStatus_lifecycleEntity (comments : Option Text) (active : Bool)
    (details : RuleDetails) (hdetails : ({ r with details := details } : StoredRule).withoutStatus =
      r.withoutStatus) :
    ({ r with entity := lifecycleEntity r comments active, details := details } :
      StoredRule).withoutStatus = r.withoutStatus ↔ RebuiltWith comments r := by
  constructor
  · intro h
    have hentity := congrArg StoredRule.entity h
    exact ⟨(congrArg RuleEntity.comments hentity).symm,
      (congrArg RuleEntity.lifecycleStatus hentity).symm⟩
  · rintro ⟨hcomments, hlifecycle⟩
    have hentity : ({ lifecycleEntity r comments active with active := false } : RuleEntity) =
        { r.entity with active := false } := by
      rw [lifecycleEntity, ← hcomments]
      exact congrArg (fun status => ({ r.entity with
        active := false, lifecycleStatus := status } : RuleEntity)) hlifecycle.symm
    calc
      _ = ({ ({ r with details := details } : StoredRule).withoutStatus with
            entity := { lifecycleEntity r comments active with active := false } } :
              StoredRule) := rfl
      _ = r.withoutStatus := by rw [hdetails, hentity]; rfl

omit [PyRuntime] in
/-- A rollback differs in the comments, the lifecycle status and the creator. -/
theorem withoutDefinition_restored (actorId : Text) (description : Option Text)
    (snapshot : RuleSnapshot) (now : Instant) (reason : Text) (tags : Option (List Text))
    (current target : VersionRow) :
    (restored actorId description snapshot
        (rollbackRows now actorId reason tags current target r)).withoutDefinition =
      r.withoutDefinition ↔ RebuiltWith none r ∧ actorId = r.entity.createdByUserId := by
  constructor
  · intro h
    have hentity := congrArg StoredRule.entity h
    exact ⟨⟨(congrArg RuleEntity.comments hentity).symm,
      (congrArg RuleEntity.lifecycleStatus hentity).symm⟩,
      congrArg RuleEntity.createdByUserId hentity⟩
  · rintro ⟨⟨hcomments, hlifecycle⟩, hactor⟩
    have hentity : (restored actorId description snapshot
        (rollbackRows now actorId reason tags current target r)).withoutDefinition.entity =
          r.withoutDefinition.entity := by
      show RuleEntity.mk [] none none [] [] false "active" actorId r.entity.tagIds =
        RuleEntity.mk [] none r.entity.comments [] [] false r.entity.lifecycleStatus
          r.entity.createdByUserId r.entity.tagIds
      rw [hcomments, hlifecycle, hactor]
    exact congrArg (fun entity => ({ r.withoutDefinition with entity := entity } : StoredRule))
      hentity

/-! ### Methods -/

omit [PyRuntime] in
/-- A method of one rule that refuses or changes it. -/
theorem method_keeps_iff {change : StoredRule → Except RepositoryError (Option StoredRule)}
    {result : Repository → StoredRule → Option RuleRecord} {refused harmless : Prop}
    (hfind : repo.find? ruleId = some r) (hrefused : refused → ∃ e, change r = .error e)
    (haccepted : ¬refused → ∃ r', change r = .ok (some r') ∧
      (r'.withoutStatus = r.withoutStatus ↔ harmless)) :
    ∃ r', (repo.method ruleId change result).2.find? ruleId = some r' ∧
      (r'.withoutStatus = r.withoutStatus ↔ refused ∨ harmless) := by
  rw [Repository.method, hfind]
  by_cases h : refused
  · obtain ⟨e, he⟩ := hrefused h
    simp only [he]
    exact ⟨r, hfind, iff_of_true rfl (.inl h)⟩
  · obtain ⟨r', hr', hkeeps⟩ := haccepted h
    simp only [hr']
    refine ⟨r', Repository.find?_put_self repo ruleId r', hkeeps.trans ?_⟩
    rw [or_iff_right h]

omit [PyRuntime] in
theorem find?_method_of_ne {change : StoredRule → Except RepositoryError (Option StoredRule)}
    {result : Repository → StoredRule → Option RuleRecord} {other : Text} (hne : other ≠ ruleId) :
    (repo.method ruleId change result).2.find? other = repo.find? other := by
  obtain h | ⟨r, r', -, -, h⟩ := repo.method_cases ruleId change result
  · rw [h]
  · rw [h, Repository.find?_put_of_ne hne]

theorem error_of_refuses {toStatus : String} (h : Refuses overrides r toStatus) :
    ∃ e, ensureRuleTransitionAllowed overrides (some r.currentStatus) toStatus = .error e := by
  cases hensure : ensureRuleTransitionAllowed overrides (some r.currentStatus) toStatus with
  | error e => exact ⟨e, rfl⟩
  | ok u => exact absurd hensure h

theorem activatedRule_keeps_iff (overrides : PolicyOverrides) (now : Instant) (hfind : repo.find? ruleId = some r) :
    ∃ r', (activateRuleRecord overrides ruleId now repo).2.find? ruleId = some r' ∧
      (r'.withoutStatus = r.withoutStatus ↔
        Refuses overrides r "activated" ∨ RebuiltWith (strippedOrNone r.details.comments) r) := by
  refine method_keeps_iff hfind ?_ ?_
  · intro hrefused
    obtain ⟨e, he⟩ := error_of_refuses hrefused
    exact ⟨e, by rw [activatedRule, he]; rfl⟩
  · intro hallowed
    have hok := not_not.mp hallowed
    refine ⟨_, by rw [activatedRule, hok]; rfl, ?_⟩
    rw [StoredRule.withoutStatus_recordTransition]
    exact withoutStatus_lifecycleEntity _ _ _ rfl

theorem deactivatedRule_keeps_iff (overrides : PolicyOverrides) (now : Instant) (hfind : repo.find? ruleId = some r) :
    ∃ r', (deactivateRule overrides ruleId now repo).2.find? ruleId = some r' ∧
      (r'.withoutStatus = r.withoutStatus ↔
        Refuses overrides r "deactivated" ∨ RebuiltWith none r) := by
  refine method_keeps_iff hfind ?_ ?_
  · intro hrefused
    obtain ⟨e, he⟩ := error_of_refuses hrefused
    exact ⟨e, by rw [deactivatedRule, he]; rfl⟩
  · intro hallowed
    have hok := not_not.mp hallowed
    refine ⟨_, by rw [deactivatedRule, hok]; rfl, ?_⟩
    rw [StoredRule.withoutStatus_recordTransition]
    exact withoutStatus_lifecycleEntity _ _ _ rfl

/-- A deletion writes no new entity. -/
theorem softDeletedRule_keeps (overrides : PolicyOverrides) (now : Instant) (removedBy : Text)
    (hfind : repo.find? ruleId = some r) :
    ∃ r', (softDeleteRuleRecord overrides ruleId now removedBy repo).2.find? ruleId = some r' ∧
      r'.withoutStatus = r.withoutStatus := by
  obtain h | ⟨r₀, r', hfind', hchange, h⟩ :=
    repo.method_cases ruleId (softDeletedRule overrides now removedBy) fun repo' r =>
      some ((repo'.listed r.details.workspace ruleId true).getD
        (unlistedRecord ruleId false (some "removed") (some now)))
  · exact ⟨r, by rw [softDeleteRuleRecord, h, hfind], rfl⟩
  · cases hfind.symm.trans hfind'
    refine ⟨r', by rw [softDeleteRuleRecord, h, Repository.find?_put_self], ?_⟩
    rw [softDeletedRule] at hchange
    obtain ⟨-, -, hchange⟩ := ok_of_bind hchange
    obtain ⟨-, -, hchange⟩ := ok_of_bind hchange
    obtain ⟨-, -, hchange⟩ := ok_of_bind hchange
    obtain ⟨-, -, hchange⟩ := ok_of_bind hchange
    cases hchange
    rfl

theorem recoveredRule_keeps_iff (overrides : PolicyOverrides) (now : Instant) (recoveredBy : Text)
    (hfind : repo.find? ruleId = some r) :
    ∃ r', (recoverRule overrides ruleId now recoveredBy repo).2.find? ruleId = some r' ∧
      (r'.withoutStatus = r.withoutStatus ↔ (r.details.removedAt = none ∨
        Refuses overrides r "recovered") ∨ RebuiltWith none r) := by
  refine method_keeps_iff hfind ?_ ?_
  · rintro (hnone | hrefused)
    · refine ⟨.valueError "Rule is not removed", ?_⟩
      rw [recoveredRule, hnone]
      rfl
    · obtain ⟨e, he⟩ := error_of_refuses hrefused
      rw [recoveredRule, he]
      cases r.details.removedAt with
      | none => exact ⟨_, rfl⟩
      | some removedAt => exact ⟨e, rfl⟩
  · intro hallowed
    obtain ⟨hremoved, hok⟩ := not_or.mp hallowed
    obtain ⟨removedAt, hremovedAt⟩ := Option.ne_none_iff_exists'.mp hremoved
    refine ⟨_, by rw [recoveredRule, hremovedAt, not_not.mp hok]; rfl, ?_⟩
    rw [StoredRule.withoutStatus_recordTransition]
    exact withoutStatus_lifecycleEntity _ _ _ rfl

omit [PyRuntime] in
theorem rolledBackRule_keeps_iff (now : Instant) (toVersionId actorId reason : Text)
    (skipApproval : Bool) (tags : Option (List Text)) :
    (rolledBackRule now ruleId toVersionId actorId reason skipApproval tags
        r).2.withoutDefinition = r.withoutDefinition ↔
      rollbackTarget? ruleId toVersionId r = none ∨
        (RebuiltWith none r ∧ actorId = r.entity.createdByUserId) := by
  cases htarget : rollbackTarget? ruleId toVersionId r with
  | none =>
    obtain ⟨e, -, hentity, hdetails⟩ :=
      rolledBackRule_of_none now actorId reason skipApproval tags htarget
    refine iff_of_true ?_ (.inl rfl)
    rw [StoredRule.withoutDefinition, StoredRule.withoutStatus, hentity, hdetails]
    rfl
  | some snapshot =>
    obtain ⟨current, target, description, receipt, -, -, hrolled⟩ :=
      rolledBackRule_of_some now actorId reason skipApproval tags htarget
    rw [hrolled, withoutDefinition_restored, or_iff_right (by simp)]

/-- An operation leaves everything that it is not about as it was exactly when it is refused or the
entity that it builds has the comments, the lifecycle status and the creator that the rule has. It
leaves the other rules alone. -/
theorem keeps_iff (overrides : PolicyOverrides) (repo : Repository) (ruleId : Text)
    (r : StoredRule) (call : LifecycleCall) (hfind : repo.find? ruleId = some r) :
    (∃ r', (perform overrides repo (call.operation ruleId)).find? ruleId = some r' ∧
      (call.Keeps r r' ↔ call.Harmless overrides repo ruleId r)) ∧
    ∀ other, other ≠ ruleId →
      (perform overrides repo (call.operation ruleId)).find? other = repo.find? other := by
  cases call with
  | activate now => exact ⟨activatedRule_keeps_iff overrides now hfind, fun _ => find?_method_of_ne⟩
  | deactivate now => exact ⟨deactivatedRule_keeps_iff overrides now hfind, fun _ => find?_method_of_ne⟩
  | softDelete now removedBy =>
    obtain ⟨r', hr', hkeeps⟩ := softDeletedRule_keeps overrides now removedBy hfind
    exact ⟨⟨r', hr', iff_of_true hkeeps trivial⟩, fun _ => find?_method_of_ne⟩
  | recover now recoveredBy =>
    obtain ⟨r', hr', hkeeps⟩ := recoveredRule_keeps_iff overrides now recoveredBy hfind
    exact ⟨⟨r', hr', hkeeps.trans or_assoc⟩, fun _ => find?_method_of_ne⟩
  | rollback now toVersionId reason requestedByUserId skipApproval tags =>
    have hperform : perform overrides repo (LifecycleCall.operation ruleId
        (.rollback now toVersionId reason requestedByUserId skipApproval tags)) =
          repo.put ruleId (rolledBackRule now ruleId toVersionId
            (repo.actor (requester requestedByUserId)) reason skipApproval tags r).2 := by
      show (executeRuleRollback ruleId now toVersionId reason requestedByUserId skipApproval tags
        repo).2 = _
      rw [executeRuleRollback, hfind]
    rw [hperform]
    exact ⟨⟨_, Repository.find?_put_self repo ruleId _, rolledBackRule_keeps_iff now toVersionId _
      reason skipApproval tags⟩, fun _ hne => Repository.find?_put_of_ne hne⟩

end Frame

section Sample

local instance sampleRuntimeFrame : PyRuntime := sampleRuntimeActivation

/-- A rule that was created active, with these comments. -/
def sampleActive (comments : Option Text) : Repository :=
  perform noOverrides ⟨[], ["user-admin"], admin_mem⟩
    (.create "r" 1 sampleOrigin { sampleFields true with comments := comments })

theorem sampleActive_facts (comments : Option Text) :
    ∃ r, (sampleActive comments).find? "r" = some r ∧ r.entity.comments = comments ∧
      r.entity.lifecycleStatus = "active" ∧ r.currentStatus = "activated" :=
  ⟨_, rfl, rfl, rfl, rfl⟩

/-- The comments of a rule are lost when it is deactivated. -/
theorem comments_lost :
    ¬ ∀ (overrides : PolicyOverrides) (repo : Repository) (ruleId : Text) (r : StoredRule)
      (call : LifecycleCall), repo.find? ruleId = some r →
      ∃ r', (perform overrides repo (call.operation ruleId)).find? ruleId = some r' ∧
        call.Keeps r r' := by
  intro h
  obtain ⟨r, hfind, hcomments, -, hstatus⟩ := sampleActive_facts (some "seen")
  obtain ⟨r', hr', hkeeps⟩ := h noOverrides _ "r" r (.deactivate 2) hfind
  obtain ⟨r'', hr'', hiff⟩ := deactivatedRule_keeps_iff noOverrides 2 hfind
  cases hr'.symm.trans hr''
  rcases hiff.mp hkeeps with hrefused | ⟨hnone, -⟩
  · refine hrefused ?_
    rw [hstatus]
    decide +kernel
  · rw [hcomments] at hnone
    cases hnone

/-- A rule without comments is deactivated and stays as it was. -/
theorem keeps_sampleActive : ∃ r r', (sampleActive none).find? "r" = some r ∧
    (perform noOverrides (sampleActive none) (.deactivate "r" 2)).find? "r" =
      some r' ∧ r'.entity.active = false ∧ r'.withoutStatus = r.withoutStatus := by
  obtain ⟨r, hfind, hcomments, hlifecycle, -⟩ := sampleActive_facts none
  obtain ⟨⟨r', hr', hkeeps⟩, -⟩ := keeps_iff noOverrides _ "r" r (.deactivate 2) hfind
  have hactive : ((perform noOverrides (sampleActive none) (.deactivate "r" 2)).find?
      "r").map (fun r => r.entity.active) = some false := by decide +kernel
  refine ⟨r, r', hfind, hr', ?_, hkeeps.mpr (.inr ⟨hcomments, hlifecycle⟩)⟩
  replace hr' : (perform noOverrides (sampleActive none) (.deactivate "r" 2)).find?
      "r" = some r' := hr'
  rw [hr'] at hactive
  exact Option.some.inj hactive

end Sample

end InMemory

end Lifecycle

end DqMadeEasy
