import DqMadeEasy.Approvals.Review
import DqMadeEasy.Logic.Atomic
import DqMadeEasy.RunPlans.Atomicity

/-!
# Reviews that fail

A review moves the run plan version and publishes a repair before it is known whether the reviewer
may decide, and deactivates a rule and reverts its suites after it is decided. No later step undoes
these writes: each leaves an event of the plan or a row of the audit trail. So a review that fails
changes nothing exactly when nothing fails after its first write.
-/

namespace DqMadeEasy

namespace Approvals

namespace Review

open Artifacts Effect Lifecycle Lifecycle.InMemory RunPlans Runs Worker

/-! ### What a review leaves behind -/

section Traces

variable {Content α : Type}

/-- How many events a plan has, and how many rows the audit trail. -/
def traces (runPlanId : Text) (w : ReviewWorld Content) : ℕ :=
  (w.plans.getPlan runPlanId).elim 0 (fun plan => plan.transitionEvents.length) +
    w.approvals.audit.length

variable {runPlanId : Text} {f : PyError → ApiError}

theorem grows_rules (p : Effect InMemory.Repository PyError α) :
    Grows (traces runPlanId) (rulesPart.on f p : Effect (ReviewWorld Content) ApiError α) :=
  fun _ _ h => h

theorem grows_artifacts (p : Effect (Registry Content) PyError α) :
    Grows (traces runPlanId) (artifactsPart.on f p) := fun _ _ h => h

theorem grows_approvals {p : Effect Store PyError α}
    (hp : ∀ store, store.audit.length ≤ (p.run store).2.audit.length) :
    Grows (traces runPlanId) (approvalsPart.on f p : Effect (ReviewWorld Content) ApiError α) := by
  intro n w h
  exact le_trans h (Nat.add_le_add_left (hp w.approvals) _)

theorem length_audit_append (event : AuditEvent) (store : Store) :
    ((appendAuditEvent event).run store).2.audit.length = store.audit.length + 1 :=
  List.length_append

theorem grows_audited (command : ReviewCommand) (action : String) (actorId : Option Text)
    (details : Dict) : Grows (traces runPlanId)
      (audited command action actorId details : Effect (ReviewWorld Content) ApiError Unit) := by
  refine grows_approvals fun store => ?_
  rw [length_audit_append]
  exact Nat.le_succ _

variable [PyRuntime] [PyNumerals]

theorem length_audit_update (draw : Draw) (approvalId : Text) (payload : Dict)
    (actorId : Option Text) (store : Store) :
    store.audit.length ≤
      ((Approvals.updateApproval draw approvalId payload actorId).run store).2.audit.length := by
  rw [Approvals.updateApproval, run_ofState]
  split
  · exact le_rfl
  · split
    · exact le_rfl
    · exact (List.prefix_append store.audit _).length_le

variable (S : ReviewServices Content) (command : ReviewCommand)

theorem grows_writeDecision :
    Grows (traces runPlanId) (writeDecision command : Effect (ReviewWorld Content) ApiError _) := by
  refine Grows.bind (grows_approvals fun store => length_audit_update _ _ _ _ store) fun updated => ?_
  exact Grows.of_reads (reads_ofExcept _)

theorem grows_executeGxSuiteRepair (ruleId : Text) :
    Grows (traces runPlanId) (executeGxSuiteRepair S command ruleId) := by
  refine Grows.bind (Grows.of_reads reads_get) fun w => ?_
  refine Grows.bind (Grows.of_reads (reads_ofExcept _)) fun prepared => ?_
  exact Grows.bind (grows_artifacts _) fun _ => grows_audited _ _ _ _

theorem grows_prepareDecision [PyDatetime] (checked : Checked) :
    Grows (traces runPlanId) (prepareDecision S command checked) := by
  rw [prepareDecision]
  refine Grows.ite ?_ (Grows.of_reads fun _ => rfl)
  refine Grows.bind (Grows.of_reads (reads_ofExcept _)) fun _ => ?_
  by_cases hrepairs : checked.Repairs
  · rw [if_pos hrepairs]
    refine Grows.bind (grows_executeGxSuiteRepair S command _) fun _ => ?_
    exact Grows.of_reads (reads_ofExcept _)
  · rw [if_neg hrepairs]
    exact Grows.of_reads (reads_ofExcept _)

theorem grows_revertSuite (d : Deactivation) (suite : StoredArtifact Content) :
    Grows (traces runPlanId) (revertSuite S command d suite) := by
  refine Grows.bind (Grows.of_reads (reads_ofExcept _)) fun typed => ?_
  refine Grows.ite (Grows.of_reads fun _ => rfl) ?_
  refine Grows.bind (Grows.of_reads reads_get) fun w => ?_
  refine Grows.bind (grows_artifacts _) fun _ => ?_
  refine Grows.bind (Grows.of_reads (reads_ofExcept _)) fun artifact => ?_
  refine Grows.bind (grows_artifacts _) fun _ => ?_
  exact Grows.foldlM (fun _ notice => grows_audited _ _ _ _) _ _

omit [PyNumerals] in
theorem grows_recordReview (checked : Checked) (requestType : Text) :
    Grows (traces runPlanId) (recordReview S command checked requestType) := by
  rw [recordReview]
  split
  · exact Grows.of_reads fun _ => rfl
  · refine Grows.ite ?_ (Grows.of_reads fun _ => rfl)
    exact Grows.bind (grows_rules _) fun _ => Grows.of_reads fun _ => rfl

theorem grows_deactivateReviewed (checked : Checked) (updated : Approval)
    (requestType ruleId : Text) : Grows (traces runPlanId)
      (deactivateReviewed S command checked updated requestType ruleId) := by
  refine Grows.bind (Grows.of_reads (reads_ofExcept _)) fun _ => ?_
  refine Grows.bind (grows_rules _) fun _ => ?_
  refine Grows.bind (Grows.of_reads reads_get) fun w => ?_
  exact Grows.foldlM (fun _ suite => grows_revertSuite S command _ suite) _ _

theorem grows_concludeReview (checked : Checked) (updated : Approval) :
    Grows (traces runPlanId) (concludeReview S command checked updated) := by
  refine Grows.bind (Grows.of_reads (reads_ofExcept _)) fun requestType => ?_
  refine Grows.bind (grows_recordReview S command checked requestType) fun _ => ?_
  refine Grows.ite ?_ (Grows.of_reads fun _ => rfl)
  refine Grows.bind (Grows.of_reads (reads_ofExcept _)) fun requestType => ?_
  exact Grows.ite (grows_deactivateReviewed S command _ _ _ _) (Grows.of_reads fun _ => rfl)

end Traces

/-! ### Saves and reversions -/

section Reversions

variable {Content : Type} (S : ReviewServices Content) (command : ReviewCommand)

def Saves (artifact : ArtifactEnvelope Content) (status sourcePipeline : String)
    (registry : Registry Content) : Prop :=
  ∀ item ∈ registry.find? artifact.id artifact.version, S.hashPayload item =
    S.hashPayload (artifact.stored status.toList command.actorId (some sourcePipeline.toList))

variable {registry : Registry Content}

variable {S command} in
theorem Saves.run_saveSuite {artifact : ArtifactEnvelope Content} {status sourcePipeline : String}
    (h : Saves S command artifact status sourcePipeline registry) :
    ∃ row registry', (saveSuite S command artifact status sourcePipeline).run registry =
      (.ok row, registry') := by
  obtain ⟨row, hrow⟩ := Registry.saveArtifact_ok_iff.mpr h
  refine ⟨row, _, Prod.ext ?_ rfl⟩
  rw [saveSuite, methodEffect, run_ofState, hrow]
  rfl

variable {S command} in
theorem run_saveSuite_of_conflict {artifact : ArtifactEnvelope Content}
    {status sourcePipeline : String} (h : ¬Saves S command artifact status sourcePipeline registry)
    :
    ∃ exc, (saveSuite S command artifact status sourcePipeline).run registry =
      (.error exc, registry) := by
  rw [saveSuite, methodEffect, run_ofState]
  cases hsave : registry.saveArtifact S.hashPayload command.now artifact status.toList none
      command.actorId (some sourcePipeline.toList) with
  | mk outcome registry' =>
    cases outcome with
    | ok row => exact absurd (Registry.saveArtifact_ok_iff.mp ⟨row, congrArg Prod.fst hsave⟩) h
    | error error => exact ⟨raisedBy error, Prod.ext rfl (Registry.saveArtifact_error hsave)⟩

omit S command in
theorem run_artifactsPart (change : Registry Content → Registry Content) (f : PyError → ApiError)
    (w : ReviewWorld Content) : (artifactsPart.on f (Effect.ofState fun registry =>
      (.ok (), change registry) : Effect (Registry Content) PyError Unit)).run w =
        (.ok (), { w with artifacts := change w.artifacts }) := rfl

theorem run_notices (notices : List Notice) (w : ReviewWorld Content) :
    ∃ store, (notices.foldlM (fun _ notice =>
      audited command notice.action notice.actorId notice.details) ()).run w =
        (.ok (), { w with approvals := store }) := by
  induction notices generalizing w with
  | nil => exact ⟨w.approvals, rfl⟩
  | cons notice notices ih =>
    obtain ⟨store, hrest⟩ := ih
      ((audited command notice.action notice.actorId notice.details).run w).2
    refine ⟨store, ?_⟩
    rw [List.foldlM_cons]
    exact hrest

variable [PyRuntime] [PyNumerals] (d : Deactivation)

/-- The registry after the reversion of a suite, unless it fails. -/
def revertedRegistry (registry : Registry Content) (suite : StoredArtifact Content) :
    Except ApiError (Registry Content) := do
  let typed ← coerceGxSuite S suite
  if Text.strip typed.suiteId = [] then .ok registry
  else
    let r := reversionOf S command d registry typed
    let artifact ← revertedArtifact S r.newSuite
    let saved := (saveSuite S command artifact r.status "rule-lifecycle").run
      (r.disable command d registry)
    let _ ← saved.1.mapError .raised
    return saved.2

variable {S command d} {w : ReviewWorld Content} {suite : StoredArtifact Content}

theorem run_revertSuite_ok (h : revertedRegistry S command d w.artifacts suite = .ok registry) :
    ∃ store, (revertSuite S command d suite).run w =
      (.ok (), { w with artifacts := registry, approvals := store }) := by
  obtain ⟨typed, htyped, h⟩ := ok_of_bind h
  rw [revertSuite, htyped, ofExcept_ok_bind]
  by_cases hblank : Text.strip typed.suiteId = []
  · rw [if_pos hblank] at h ⊢
    cases h
    exact ⟨w.approvals, rfl⟩
  · rw [if_neg hblank] at h ⊢
    obtain ⟨artifact, hartifact, h⟩ := ok_of_bind h
    obtain ⟨row, hrow, h⟩ := ok_of_bind h
    cases h
    rw [run_bind_ok (run_get w)]
    dsimp only
    rw [run_bind_ok (run_artifactsPart _ _ w), hartifact, ofExcept_ok_bind]
    set r := reversionOf S command d w.artifacts typed
    cases hsaved : (saveSuite S command artifact r.status "rule-lifecycle").run
        (r.disable command d w.artifacts) with
    | mk outcome registry =>
      rw [hsaved] at hrow
      cases outcome with
      | error exc => cases hrow
      | ok saved =>
        rw [run_bind_ok (Part.run_on_ok hsaved)]
        exact run_notices command _ _

theorem run_revertSuite_error {e : ApiError}
    (h : revertedRegistry S command d w.artifacts suite = .error e) :
    ∃ w', (revertSuite S command d suite).run w = (.error e, w') := by
  rw [revertedRegistry] at h
  rw [revertSuite]
  cases htyped : coerceGxSuite S suite with
  | error e' =>
    rw [htyped] at h
    cases h
    exact ⟨w, rfl⟩
  | ok typed =>
    rw [htyped, ok_bind] at h
    rw [ofExcept_ok_bind]
    by_cases hblank : Text.strip typed.suiteId = []
    · rw [if_pos hblank] at h
      cases h
    · rw [if_neg hblank] at h ⊢
      rw [run_bind_ok (run_get w)]
      dsimp only at h ⊢
      rw [run_bind_ok (run_artifactsPart _ _ w)]
      set r := reversionOf S command d w.artifacts typed
      cases hartifact : revertedArtifact S r.newSuite with
      | error e' =>
        rw [hartifact] at h
        cases h
        exact ⟨_, rfl⟩
      | ok artifact =>
        rw [hartifact, ok_bind] at h
        rw [ofExcept_ok_bind]
        cases hsaved : (saveSuite S command artifact r.status "rule-lifecycle").run
            (r.disable command d w.artifacts) with
        | mk outcome registry =>
          rw [hsaved] at h
          cases outcome with
          | ok saved => cases h
          | error exc =>
            cases h
            exact ⟨_, run_bind_error (Part.run_on_error hsaved)⟩

theorem returns_reversions (suites : List (StoredArtifact Content)) (w : ReviewWorld Content) :
    Returns (suites.foldlM (fun _ suite => revertSuite S command d suite) ()) w ↔
      ∃ registry, suites.foldlM (revertedRegistry S command d) w.artifacts = .ok registry := by
  induction suites generalizing w with
  | nil => exact iff_of_true (returns_pure () w) ⟨w.artifacts, rfl⟩
  | cons suite suites ih =>
    rw [List.foldlM_cons, List.foldlM_cons]
    cases hreverted : revertedRegistry S command d w.artifacts suite with
    | error e =>
      obtain ⟨w', hrun⟩ := run_revertSuite_error hreverted
      exact iff_of_false (not_returns_bind hrun) nofun
    | ok registry =>
      obtain ⟨store, hrun⟩ := run_revertSuite_ok hreverted
      rw [returns_bind hrun, ih, ok_bind]

end Reversions

/-! ### The run plan -/

section PlanChanges

variable {Content : Type}

/-- A review moves a version along the table, or deactivates one that is to be. -/
theorem planMove_spec {requested requestType : Text} {source target : GovernanceState}
    (h : planMove requested requestType = some (source, target)) :
    (source = .deactivationRequested ∧ target = .deactivated) ∨
      (target ≠ .deactivated ∧ target ∈ source.allowedTransitions) := by
  rw [planMove] at h
  split at h
  · split at h
    · cases h
      exact .inr (by decide)
    · split at h
      · cases h
        exact .inl ⟨rfl, rfl⟩
      · cases h
  · split at h
    · split at h
      · cases h
        exact .inr (by decide)
      · split at h
        · cases h
          exact .inr (by decide)
        · cases h
    · cases h

theorem run_onPlan_ok {plans : RunPlans.Repository} {runPlanId : Text} {plan after : Plan}
    {change : Plan → Except PyError Plan} (hplan : plans.getPlan runPlanId = some plan)
    (hchange : change plan = .ok after) :
    (onPlan runPlanId change).run plans =
      (.ok after, Assoc.update runPlanId (fun _ => after) plans) := by
  rw [onPlan, run_ofState, hplan]
  dsimp only
  rw [hchange]

/-- The change of a version that the checks let a review make adds an event to its plan. -/
theorem PlanChange.run_method {plans : RunPlans.Repository} {existing : Approval}
    {requested requestType : Text} {change : PlanChange} (actorId : Option Text)
    (h : checkPlan plans existing requested requestType = .ok (some change)) :
    ∃ plan after, plans.getPlan change.runPlanId = some plan ∧
      after.transitionEvents.length = plan.transitionEvents.length + 1 ∧
      (change.method actorId).run plans =
        (.ok after, Assoc.update change.runPlanId (fun _ => after) plans) := by
  rw [checkPlan] at h
  split at h
  · cases h
  · obtain ⟨plan, hplan, h⟩ := ok_of_bind h
    obtain ⟨version, hversion, h⟩ := ok_of_bind h
    have hplan : plans.getPlan (strippedOr existing.gxRunPlanId) = some plan := by
      cases hfind : plans.getPlan (strippedOr existing.gxRunPlanId) with
      | none =>
        rw [hfind] at hplan
        cases hplan
      | some found =>
        rw [hfind] at hplan
        cases hplan
        rfl
    have hfound := findVersion_eq_ok (getVersionOr404_eq_ok.mp hversion)
    split at h
    · cases h
    · rename_i source target hmove
      split at h
      · rename_i hstate
        cases h
        have hstrip : Text.strip version.governanceState = source.text := by
          rw [hstate, GovernanceState.strip_text]
        rcases planMove_spec hmove with ⟨rfl, rfl⟩ | ⟨htarget, hmem⟩
        · refine ⟨plan, plan.applyDeactivation
            ⟨strippedOr existing.gxRunPlanVersionId, actorId, none⟩ version, hplan,
            List.length_append, ?_⟩
          rw [PlanChange.method, if_pos rfl]
          refine run_onPlan_ok hplan ?_
          rw [Plan.deactivateVersion, hfound, ok_bind, if_pos hstrip]
        · refine ⟨plan, plan.applyTransition
            ⟨strippedOr existing.gxRunPlanVersionId, target.text, actorId, none, none⟩ version, hplan,
            List.length_append, ?_⟩
          have hvalid : isValidRunPlanVersionTransition source.text target.text = true := by
            rw [isValidRunPlanVersionTransition, GovernanceState.ofText?_text, movesFrom,
              GovernanceState.ofText?_text]
            exact decide_eq_true hmem
          have hne : source.text ≠ [] := by
            cases source <;> decide
          rw [PlanChange.method, if_neg htarget]
          refine run_onPlan_ok hplan ?_
          rw [Plan.transitionVersion, hfound, ok_bind, hstrip, if_neg hne]
          exact if_pos hvalid
      · cases h

theorem run_applyPlanChange {w : ReviewWorld Content} {existing : Approval}
    {requested requestType : Text} {change : PlanChange} (actorId : Option Text)
    (h : checkPlan w.plans existing requested requestType = .ok (some change)) :
    ∃ plans, (applyPlanChange actorId (some change)).run w = (.ok (), { w with plans := plans }) ∧
      traces change.runPlanId w < traces change.runPlanId { w with plans := plans } := by
  obtain ⟨plan, after, hplan, hlength, hrun⟩ := PlanChange.run_method actorId h
  refine ⟨_, run_bind_ok (Part.run_on_ok hrun), ?_⟩
  rw [traces, traces]
  dsimp only [plansPart]
  rw [getPlan_update, hplan, Option.elim_some, Option.elim_some, hlength]
  exact Nat.add_lt_add_right (Nat.lt_succ_self _) _

end PlanChanges

/-! ### The decision -/

section Decisions

variable {Content : Type} [PyRuntime] [PyNumerals] (S : ReviewServices Content)
  (command : ReviewCommand)

def RepairPublishes (ruleId : Text) (w : ReviewWorld Content) : Prop :=
  ∃ prepared, prepareRepair S command ruleId w = .ok prepared ∧
    Saves S command prepared.artifact "active" "rule-approvals" w.artifacts

/-- The review passes all that an approval checks before it asks the repository. -/
def Prepares [PyDatetime] (checked : Checked) (w : ReviewWorld Content) : Prop :=
  checked.requested = "approved" → checkEffectiveAt command checked = .ok () ∧
    (checked.Repairs → RepairPublishes S command checked.ruleId w) ∧
    checkEffectiveStatus checked = .ok ()

def Publishes [PyDatetime] (checked : Checked) (w : ReviewWorld Content) : Prop :=
  checked.requested = "approved" ∧ checkEffectiveAt command checked = .ok () ∧
    checked.Repairs ∧ RepairPublishes S command checked.ruleId w

/-- The decision is written. -/
def Decides [PyDatetime] (checked : Checked) (w : ReviewWorld Content) : Prop :=
  Prepares S command checked w ∧ ¬SelfReview checked.existing.requesterId command.actorId

variable {S command} {w : ReviewWorld Content} {checked : Checked}

omit [PyRuntime] [PyNumerals] in
theorem checkEffectiveStatus_of_repairs (h : checked.Repairs) :
    checkEffectiveStatus checked = .ok () := by
  rw [checkEffectiveStatus, if_neg]
  rintro ⟨-, hdeactivation, -⟩
  rw [h.1] at hdeactivation
  exact absurd hdeactivation (by decide)

theorem Publishes.prepares [PyDatetime] (h : Publishes S command checked w) :
    Prepares S command checked w :=
  fun _ => ⟨h.2.1, fun _ => h.2.2.2, checkEffectiveStatus_of_repairs h.2.2.1⟩

theorem RepairPublishes.run {ruleId : Text} (h : RepairPublishes S command ruleId w) :
    ∃ store registry, (executeGxSuiteRepair S command ruleId).run w =
        (.ok (), { w with approvals := store, artifacts := registry }) ∧
      store.approvals = w.approvals.approvals ∧
      store.audit.length = w.approvals.audit.length + 1 := by
  obtain ⟨prepared, hprepared, hsaves⟩ := h
  obtain ⟨row, registry, hsaved⟩ := hsaves.run_saveSuite
  rw [executeGxSuiteRepair, run_bind_ok (run_get w), hprepared, ofExcept_ok_bind,
    run_bind_ok (Part.run_on_ok hsaved)]
  exact ⟨_, registry, rfl, rfl, List.length_append⟩

theorem run_repair_of_not_publishes {ruleId : Text} (h : ¬RepairPublishes S command ruleId w) :
    ∃ e, (executeGxSuiteRepair S command ruleId).run w = (.error e, w) := by
  rw [executeGxSuiteRepair, run_bind_ok (run_get w)]
  cases hprepared : prepareRepair S command ruleId w with
  | error e => exact ⟨e, rfl⟩
  | ok prepared =>
    rw [ofExcept_ok_bind]
    obtain ⟨exc, hconflict⟩ := run_saveSuite_of_conflict fun hsaves => h ⟨prepared, hprepared, hsaves⟩
    exact ⟨forbidding exc, run_bind_error (Part.run_on_error hconflict)⟩

/-- What an approval does before it asks the repository. -/
theorem run_prepareDecision [PyDatetime] (S : ReviewServices Content) (command : ReviewCommand)
    (checked : Checked) (w : ReviewWorld Content) :
    (Publishes S command checked w ∧ ∃ store registry, (prepareDecision S command checked).run w =
        (.ok (), { w with approvals := store, artifacts := registry }) ∧
      store.approvals = w.approvals.approvals ∧
      store.audit.length = w.approvals.audit.length + 1) ∨
    (¬Publishes S command checked w ∧ Prepares S command checked w ∧
      (prepareDecision S command checked).run w = (.ok (), w)) ∨
    (¬Publishes S command checked w ∧ ¬Prepares S command checked w ∧
      ∃ e, (prepareDecision S command checked).run w = (.error e, w)) := by
  rw [prepareDecision]
  by_cases happroved : checked.requested = "approved"
  · rw [if_pos happroved]
    cases heffective : checkEffectiveAt command checked with
    | error e =>
      refine .inr (.inr ⟨fun h => ?_, fun h => ?_, e, rfl⟩)
      · cases heffective.symm.trans h.2.1
      · cases heffective.symm.trans (h happroved).1
    | ok _ =>
      rw [ofExcept_ok_bind]
      by_cases hrepairs : checked.Repairs
      · rw [if_pos hrepairs, checkEffectiveStatus_of_repairs hrepairs]
        by_cases hpublishes : RepairPublishes S command checked.ruleId w
        · obtain ⟨store, registry, hrun, hstore⟩ := hpublishes.run
          exact .inl ⟨⟨happroved, heffective, hrepairs, hpublishes⟩, store, registry,
            run_bind_ok hrun, hstore⟩
        · obtain ⟨e, hrun⟩ := run_repair_of_not_publishes hpublishes
          exact .inr (.inr ⟨fun h => hpublishes h.2.2.2,
            fun h => hpublishes ((h happroved).2.1 hrepairs), e, run_bind_error hrun⟩)
      · rw [if_neg hrepairs]
        cases hstatus : checkEffectiveStatus checked with
        | error e =>
          refine .inr (.inr ⟨fun h => hrepairs h.2.2.1, fun h => ?_, e, rfl⟩)
          cases hstatus.symm.trans (h happroved).2.2
        | ok _ =>
          exact .inr (.inl ⟨fun h => hrepairs h.2.2.1,
            fun _ => ⟨heffective, fun h => absurd h hrepairs, hstatus⟩, rfl⟩)
  · rw [if_neg happroved]
    exact .inr (.inl ⟨fun h => happroved h.1, fun h => absurd h happroved, rfl⟩)

/-- The repository refuses the requester, and changes nothing. -/
theorem run_writeDecision_of_selfReview {existing : Approval}
    (hfind : w.approvals.find? command.approvalId = some existing)
    (hself : SelfReview existing.requesterId command.actorId) :
    ∃ e, (writeDecision command).run w = (.error e, w) := by
  have hrun : (Approvals.updateApproval ⟨[], command.timestamp⟩ command.approvalId command.payload
      command.actorId).run w.approvals =
        (.error (.builtin "PermissionError" "Requester cannot approve their own request"),
          w.approvals) := by
    rw [Approvals.updateApproval, run_ofState, hfind]
    exact if_pos hself
  exact ⟨_, run_bind_error (Part.run_on_error (s := w) hrun)⟩

/-- The repository writes the decision of any other reviewer. -/
theorem run_writeDecision {existing : Approval}
    (hfind : w.approvals.find? command.approvalId = some existing)
    (hself : ¬SelfReview existing.requesterId command.actorId) :
    ∃ store, (writeDecision command).run w =
        (.ok (reviewedApproval ⟨[], command.timestamp⟩ command.payload command.actorId existing),
          { w with approvals := store }) ∧
      store.audit.length = w.approvals.audit.length + 1 ∧
      store.approvals = Assoc.update command.approvalId (fun _ =>
        reviewedApproval ⟨[], command.timestamp⟩ command.payload command.actorId existing)
          w.approvals.approvals := by
  obtain ⟨store, hrun, hstore⟩ : ∃ store, (Approvals.updateApproval ⟨[], command.timestamp⟩
      command.approvalId command.payload command.actorId).run (approvalsPart.get w) =
        (.ok (some (reviewedApproval ⟨[], command.timestamp⟩ command.payload command.actorId
          existing)), store) ∧ store.audit.length = w.approvals.audit.length + 1 ∧
      store.approvals = Assoc.update command.approvalId (fun _ =>
        reviewedApproval ⟨[], command.timestamp⟩ command.payload command.actorId existing)
          w.approvals.approvals := by
    rw [Approvals.updateApproval, run_ofState, show (approvalsPart.get w).find? _ = _ from hfind]
    exact ⟨_, if_neg hself, List.length_append, rfl⟩
  refine ⟨store, ?_, hstore⟩
  rw [writeDecision, run_bind_ok (Part.run_on_ok hrun)]
  rfl

end Decisions

/-! ### What follows the decision -/

section Conclusions

variable {Content : Type} [PyRuntime] [PyNumerals] (S : ReviewServices Content)
  (command : ReviewCommand)

omit [PyNumerals] in
/-- The status table lets the rule take the status of the review. -/
def Records (checked : Checked) (requestType : Text) (rules : InMemory.Repository) : Prop :=
  ∀ current ∈ checked.currentRuleStatus, checked.ruleId ≠ [] →
    checked.requested ∈ ["approved", "rejected"].map String.toList →
    requestType ∉ ["deactivation", "gx_suite_repair"].map String.toList →
    ∀ r ∈ rules.find? checked.ruleId,
      ensureTransitionAllowed S.overrides .rule (some current) checked.requested = .ok ()

/-- The rule can be deactivated, and each of its active suites, in turn, reverted. -/
def Deactivates (checked : Checked) (requestType : Text) (rules : InMemory.Repository)
    (registry : Registry Content) : Prop :=
  let ruleId := Text.strip checked.existing.ruleId
  finalEffectiveStatus checked.existing checked.existing requestType = some "deactivated".toList ∧
    (∀ r ∈ rules.find? ruleId,
      ensureRuleTransitionAllowed S.overrides (some r.currentStatus) "deactivated" = .ok ()) ∧
    ∃ reverted, (activeSuites S ruleId registry).foldlM (revertedRegistry S command
      (deactivationOf S checked ruleId (deactivateRule S.overrides ruleId command.now rules).2))
        registry = .ok reverted

/-- Nothing fails after the decision is written. -/
def Concludes (checked : Checked) (rules : InMemory.Repository) (registry : Registry Content) :
    Prop :=
  ∃ requestType, normalizeApprovalRequestType checked.existing.requestType = .ok requestType ∧
    Records S checked requestType rules ∧
    (checked.requested = "approved" → requestType = "deactivation" →
      Text.strip checked.existing.ruleId ≠ [] →
      Deactivates S command checked requestType rules registry)

variable {S command} {checked : Checked} {w : ReviewWorld Content}

variable {rules : InMemory.Repository}

theorem concludes_congr {requestType : Text} {registry registry' : Registry Content}
    (htype : normalizeApprovalRequestType checked.existing.requestType = .ok requestType)
    (hne : requestType ≠ "deactivation") :
    Concludes S command checked rules registry ↔ Concludes S command checked rules registry' := by
  have hforth : ∀ {a b : Registry Content}, Concludes S command checked rules a →
      Concludes S command checked rules b := by
    rintro a b ⟨other, hother, hrecords, -⟩
    cases htype.symm.trans hother
    exact ⟨requestType, htype, hrecords, fun _ h => absurd h hne⟩
  exact ⟨hforth, hforth⟩

omit [PyNumerals] in
variable (command) in
theorem run_deactivateRule_ok {ruleId : Text} (h : ∀ r ∈ rules.find? ruleId,
      ensureRuleTransitionAllowed S.overrides (some r.currentStatus) "deactivated" = .ok ()) :
    ∃ row, (methodEffect (deactivateRule S.overrides ruleId command.now)).run rules =
      (.ok row, (deactivateRule S.overrides ruleId command.now rules).2) := by
  rw [methodEffect, run_ofState, deactivateRule, Repository.method]
  cases hfind : rules.find? ruleId with
  | none => exact ⟨none, rfl⟩
  | some r =>
    dsimp only
    rw [deactivatedRule, h r hfind]
    exact ⟨_, rfl⟩

omit [PyNumerals] in
variable (command) in
theorem run_deactivateRule_error {ruleId : Text} (h : ¬∀ r ∈ rules.find? ruleId,
      ensureRuleTransitionAllowed S.overrides (some r.currentStatus) "deactivated" = .ok ()) :
    ∃ exc, (methodEffect (deactivateRule S.overrides ruleId command.now)).run rules =
      (.error exc, rules) := by
  push Not at h
  obtain ⟨r, hfind, hrefused⟩ := h
  have hfind : rules.find? ruleId = some r := hfind
  rw [methodEffect, run_ofState, deactivateRule, Repository.method, hfind]
  dsimp only
  rw [deactivatedRule]
  cases hensure : ensureRuleTransitionAllowed S.overrides (some r.currentStatus) "deactivated" with
  | ok _ => exact absurd hensure hrefused
  | error error => exact ⟨raisedBy error, rfl⟩

omit [PyNumerals] in
variable (command) in
/-- The recording of a review returns unless the status table refuses it. -/
theorem run_recordReview {requestType : Text} (h : Records S checked requestType w.rules) :
    ∃ rules, (recordReview S command checked requestType).run w =
      (.ok (), { w with rules := rules }) ∧
        (requestType = "deactivation" → rules = w.rules) := by
  rw [recordReview]
  cases hcurrent : checked.currentRuleStatus with
  | none => exact ⟨w.rules, rfl, fun _ => rfl⟩
  | some current =>
    dsimp only
    by_cases hrecord : checked.ruleId ≠ [] ∧
        checked.requested ∈ ["approved", "rejected"].map String.toList ∧
        requestType ∉ ["deactivation", "gx_suite_repair"].map String.toList
    · rw [if_pos hrecord]
      have hmethod : ∃ row rules, (methodEffect (recordRuleStatusTransition S.overrides
          checked.ruleId command.now (some current) checked.requested command.actorId
          (some "Approval reviewed"))).run w.rules = (.ok row, rules) := by
        rw [methodEffect, run_ofState, recordRuleStatusTransition]
        cases hfind : w.rules.find? checked.ruleId with
        | none => exact ⟨none, _, rfl⟩
        | some r =>
          dsimp only
          rw [transitionedRule, h current hcurrent hrecord.1 hrecord.2.1 hrecord.2.2 r hfind]
          exact ⟨_, _, rfl⟩
      obtain ⟨row, rules, hmethod⟩ := hmethod
      refine ⟨rules, run_bind_ok (Part.run_on_ok hmethod), fun hdeactivation => ?_⟩
      exact absurd (hdeactivation ▸ List.mem_cons_self) hrecord.2.2
    · rw [if_neg hrecord]
      exact ⟨w.rules, rfl, fun _ => rfl⟩

omit [PyNumerals] in
variable (command) in
theorem run_recordReview_error {requestType : Text} (h : ¬Records S checked requestType w.rules) :
    ∃ e, (recordReview S command checked requestType).run w = (.error e, w) := by
  rw [Records] at h
  push Not at h
  obtain ⟨current, hcurrent, hrule, hrequested, htype, r, hfind, hrefused⟩ := h
  have hcurrent : checked.currentRuleStatus = some current := hcurrent
  have hfind : w.rules.find? checked.ruleId = some r := hfind
  rw [recordReview, hcurrent]
  dsimp only
  rw [if_pos ⟨hrule, hrequested, htype⟩]
  have hmethod : ∃ exc, (methodEffect (recordRuleStatusTransition S.overrides checked.ruleId
      command.now (some current) checked.requested command.actorId
      (some "Approval reviewed"))).run w.rules = (.error exc, w.rules) := by
    rw [methodEffect, run_ofState, recordRuleStatusTransition, hfind]
    dsimp only
    rw [transitionedRule]
    cases hensure : ensureTransitionAllowed S.overrides .rule (some current) checked.requested with
    | ok _ => exact absurd hensure hrefused
    | error error => exact ⟨raisedBy error, rfl⟩
  obtain ⟨exc, hmethod⟩ := hmethod
  exact ⟨.raised exc, run_bind_error (Part.run_on_error (s := w) hmethod)⟩

omit [PyRuntime] [PyNumerals] in
@[simp] theorem textOr_self (t : Text) : textOr t t = t := ite_self t

/-- The deactivation of the rule of a review returns exactly if it can be done. -/
theorem returns_deactivateReviewed {updated : Approval} {requestType : Text}
    (hstatus : updated.effectiveStatus = checked.existing.effectiveStatus) :
    Returns (deactivateReviewed S command checked updated requestType
        (Text.strip checked.existing.ruleId)) w ↔
      Deactivates S command checked requestType w.rules w.artifacts := by
  have hfinal : finalEffectiveStatus updated checked.existing requestType =
      finalEffectiveStatus checked.existing checked.existing requestType := by
    rw [finalEffectiveStatus, finalEffectiveStatus, hstatus]
  rw [deactivateReviewed, Deactivates, hfinal]
  by_cases hdeactivated : finalEffectiveStatus checked.existing checked.existing requestType =
      some "deactivated".toList
  · rw [if_pos hdeactivated, ofExcept_ok_bind]
    by_cases hallowed : ∀ r ∈ w.rules.find? (Text.strip checked.existing.ruleId),
        ensureRuleTransitionAllowed S.overrides (some r.currentStatus) "deactivated" = .ok ()
    · obtain ⟨row, hrun⟩ := run_deactivateRule_ok command hallowed
      rw [returns_bind (Part.run_on_ok hrun), revertSuites, returns_bind (run_get _),
        returns_reversions]
      exact ⟨fun h => ⟨hdeactivated, hallowed, h⟩, fun h => h.2.2⟩
    · obtain ⟨exc, hrun⟩ := run_deactivateRule_error command hallowed
      exact iff_of_false (not_returns_bind (Part.run_on_error (s := w) hrun))
        fun h => hallowed h.2.1
  · rw [if_neg hdeactivated]
    exact iff_of_false (not_returns_bind (run_ofExcept _ _)) fun h => hdeactivated h.1

/-- What follows the decision returns exactly if nothing in it fails. -/
theorem returns_concludeReview (draw : Draw) (payload : Dict) (actorId : Option Text) :
    Returns (concludeReview S command checked
        (reviewedApproval draw payload actorId checked.existing)) w ↔
      Concludes S command checked w.rules w.artifacts := by
  rw [concludeReview, Concludes]
  cases htype : normalizeApprovalRequestType checked.existing.requestType with
  | error e =>
    refine iff_of_false (not_returns_bind (run_ofExcept _ _)) ?_
    rintro ⟨requestType, hok, -⟩
    cases hok
  | ok requestType =>
    rw [ofExcept_ok_bind]
    by_cases hrecords : Records S checked requestType w.rules
    · obtain ⟨rules, hrun, hrules⟩ := run_recordReview command hrecords
      rw [returns_bind hrun]
      have hcondition : (∃ other, Except.ok requestType = (.ok other : Except ApiError Text) ∧
          Records S checked other w.rules ∧ (checked.requested = "approved" →
            other = "deactivation" → Text.strip checked.existing.ruleId ≠ [] →
            Deactivates S command checked other w.rules w.artifacts)) ↔
          (checked.requested = "approved" → requestType = "deactivation" →
            Text.strip checked.existing.ruleId ≠ [] →
            Deactivates S command checked requestType w.rules w.artifacts) := by
        constructor
        · rintro ⟨other, heq, -, h⟩
          cases heq
          exact h
        · intro h
          exact ⟨requestType, rfl, hrecords, h⟩
      rw [hcondition]
      by_cases happroved : checked.requested = "approved"
      · have htype' : normalizeApprovalRequestType (textOr (reviewedApproval draw payload actorId
            checked.existing).requestType checked.existing.requestType) = .ok requestType := by
          rw [show (reviewedApproval draw payload actorId checked.existing).requestType =
            checked.existing.requestType from rfl, textOr_self, htype]
        have hrule : textOr (reviewedApproval draw payload actorId checked.existing).ruleId
            checked.existing.ruleId = checked.existing.ruleId := textOr_self _
        rw [if_pos happroved, htype', ofExcept_ok_bind, hrule]
        by_cases hdeactivates : requestType = "deactivation" ∧
            Text.strip checked.existing.ruleId ≠ []
        · have hstatus : (reviewedApproval draw payload actorId checked.existing).effectiveStatus =
              checked.existing.effectiveStatus := rfl
          rw [if_pos hdeactivates, returns_deactivateReviewed hstatus, hrules hdeactivates.1]
          exact ⟨fun h _ _ _ => h, fun h => h happroved hdeactivates.1 hdeactivates.2⟩
        · rw [if_neg hdeactivates]
          exact iff_of_true (returns_pure _ _) fun _ hdeactivation hne =>
            absurd ⟨hdeactivation, hne⟩ hdeactivates
      · rw [if_neg happroved]
        exact iff_of_true (returns_pure _ _) fun h => absurd h happroved
    · obtain ⟨e, hrun⟩ := run_recordReview_error command hrecords
      refine iff_of_false (not_returns_bind hrun) ?_
      rintro ⟨other, heq, h, -⟩
      cases heq
      exact hrecords h

end Conclusions

/-! ### Reviews -/

section Reviews

variable {Content : Type} [PyRuntime] [PyNumerals] {S : ReviewServices Content}
  {command : ReviewCommand} {w : ReviewWorld Content} {checked : Checked}

/-- What a review that passes the checks has found of its approval. -/
structure Found (command : ReviewCommand) (w : ReviewWorld Content) (checked : Checked) :
    Prop where
  existing : w.approvals.find? command.approvalId = some checked.existing
  requestType : checked.requested ≠ [] →
    normalizeApprovalRequestType checked.existing.requestType = .ok checked.requestType

def PlanFound (w : ReviewWorld Content) (checked : Checked) : Prop :=
  ∀ change ∈ checked.planChange, checkPlan w.plans checked.existing checked.requested
    checked.requestType = .ok (some change)

theorem found_of_checkRequested {grantedScopes : List Text} {existing : Approval}
    {requested : Text} (hexisting : w.approvals.find? command.approvalId = some existing)
    (h : checkRequested S w grantedScopes existing requested = .ok checked) :
    Found command w checked ∧ PlanFound w checked := by
  obtain ⟨requestType, htype, h⟩ := ok_of_bind h
  dsimp only at h
  split at h
  · cases h
  · obtain ⟨_, -, h⟩ := ok_of_bind h
    obtain ⟨planChange, hplan, h⟩ := ok_of_bind h
    cases h
    refine ⟨⟨hexisting, fun _ => htype⟩, fun change hchange => ?_⟩
    cases hchange
    exact hplan

theorem found_of_checkReview (h : checkReview S command w = .ok checked) :
    Found command w checked ∧ PlanFound w checked := by
  rw [checkReview] at h
  split at h
  · cases h
  · obtain ⟨_, -, h⟩ := ok_of_bind h
    split at h
    · cases h
    · cases hfind : w.approvals.find? command.approvalId with
      | none =>
        rw [hfind] at h
        cases h
      | some existing =>
        rw [hfind, Option.elim_some, ok_bind] at h
        dsimp only at h
        split at h
        · cases h
          exact ⟨⟨hfind, fun h => absurd rfl h⟩, nofun⟩
        · exact found_of_checkRequested hfind h

/-- Nothing of what was found is about the audit trail, the plans or the artifacts. -/
theorem Found.congr {w' : ReviewWorld Content} (h : Found command w checked)
    (happrovals : w'.approvals.approvals = w.approvals.approvals) : Found command w' checked where
  existing := by
    rw [Store.find?, happrovals]
    exact h.existing
  requestType := h.requestType

/-- What follows the checks of an approval returns exactly for another reviewer, if nothing fails. -/
theorem Found.returns_settleReview (h : Found command w checked) :
    Returns (settleReview S command checked) w ↔
      ¬SelfReview checked.existing.requesterId command.actorId ∧
        Concludes S command checked w.rules w.artifacts := by
  rw [settleReview]
  by_cases hself : SelfReview checked.existing.requesterId command.actorId
  · obtain ⟨e, hrun⟩ := run_writeDecision_of_selfReview h.existing hself
    exact iff_of_false (not_returns_bind hrun) fun h => h.1 hself
  · obtain ⟨store, hrun, -⟩ := run_writeDecision h.existing hself
    rw [returns_bind hrun, returns_bind_pure, returns_concludeReview]
    exact ⟨fun h => ⟨hself, h⟩, fun h => h.2⟩

/-- It changes nothing exactly for the requester, or if nothing fails. -/
theorem Found.atomic_settleReview (h : Found command w checked) :
    Atomic (settleReview S command checked) w ↔
      (¬SelfReview checked.existing.requesterId command.actorId →
        Concludes S command checked w.rules w.artifacts) := by
  rw [settleReview]
  by_cases hself : SelfReview checked.existing.requesterId command.actorId
  · obtain ⟨e, hrun⟩ := run_writeDecision_of_selfReview h.existing hself
    exact iff_of_true (atomic_bind_error hrun) fun h => absurd hself h
  · obtain ⟨store, hrun, hlength, -⟩ := run_writeDecision h.existing hself
    have hwritten : traces [] w < traces [] { w with approvals := store } :=
      Nat.add_lt_add_left (hlength ▸ Nat.lt_succ_self _) _
    refine (atomic_bind_of_written hrun hwritten ?_).trans ?_
    · refine Grows.bind (grows_concludeReview S command checked _) fun _ => ?_
      exact Grows.of_reads fun _ => rfl
    · rw [returns_bind_pure, returns_concludeReview]
      exact ⟨fun h _ => h, fun h => h hself⟩

theorem grows_settleReview (runPlanId : Text) :
    Grows (traces runPlanId) (settleReview S command checked) := by
  refine Grows.bind (grows_writeDecision command) fun updated => ?_
  refine Grows.bind (grows_concludeReview S command checked updated) fun _ => ?_
  exact Grows.of_reads fun _ => rfl

variable [PyDatetime]

/-- A repair that is published names no artifact that the conclusion looks at. -/
theorem Found.concludes_of_publishes (h : Found command w checked)
    (hpublishes : Publishes S command checked w) (rules : InMemory.Repository)
    (registry registry' : Registry Content) :
    Concludes S command checked rules registry ↔ Concludes S command checked rules registry' := by
  have hne : checked.requested ≠ [] := by
    rw [hpublishes.1]
    decide
  refine concludes_congr (h.requestType hne) ?_
  rw [hpublishes.2.2.1.1]
  decide

theorem grows_decideReview (runPlanId : Text) :
    Grows (traces runPlanId) (decideReview S command checked) :=
  Grows.bind (grows_prepareDecision S command checked) fun _ => grows_settleReview runPlanId

theorem Found.returns_decideReview (h : Found command w checked) :
    Returns (decideReview S command checked) w ↔
      Decides S command checked w ∧ Concludes S command checked w.rules w.artifacts := by
  rw [decideReview, Decides]
  rcases run_prepareDecision S command checked w with
    ⟨hpublishes, store, registry, hrun, hstore, -⟩ | ⟨-, hprepares, hrun⟩ |
    ⟨-, hprepares, e, hrun⟩
  · rw [returns_bind hrun, (h.congr hstore).returns_settleReview,
      h.concludes_of_publishes hpublishes w.rules registry w.artifacts]
    exact ⟨fun h => ⟨⟨hpublishes.prepares, h.1⟩, h.2⟩, fun h => ⟨h.1.2, h.2⟩⟩
  · rw [returns_bind hrun, h.returns_settleReview]
    exact ⟨fun h => ⟨⟨hprepares, h.1⟩, h.2⟩, fun h => ⟨h.1.2, h.2⟩⟩
  · exact iff_of_false (not_returns_bind hrun) fun h => hprepares h.1.1

/-- It changes nothing, if it fails, exactly where a repair is published only for a decision and
nothing fails after that. -/
theorem Found.atomic_decideReview (h : Found command w checked) :
    Atomic (decideReview S command checked) w ↔
      (Publishes S command checked w → Decides S command checked w) ∧
        (Decides S command checked w → Concludes S command checked w.rules w.artifacts) := by
  rw [decideReview, Decides]
  rcases run_prepareDecision S command checked w with
    ⟨hpublishes, store, registry, hrun, hstore, hlength⟩ | ⟨hnot, hprepares, hrun⟩ |
    ⟨hnot, hprepares, e, hrun⟩
  · have hwritten : traces [] w <
        traces [] { w with approvals := store, artifacts := registry } :=
      Nat.add_lt_add_left (hlength ▸ Nat.lt_succ_self _) _
    refine (atomic_bind_of_written hrun hwritten (grows_settleReview [])).trans ?_
    rw [(h.congr hstore).returns_settleReview,
      h.concludes_of_publishes hpublishes w.rules registry w.artifacts]
    constructor
    · rintro ⟨hself, hconcludes⟩
      exact ⟨fun _ => ⟨hpublishes.prepares, hself⟩, fun _ => hconcludes⟩
    · rintro ⟨hdecides, hconcludes⟩
      exact ⟨(hdecides hpublishes).2, hconcludes (hdecides hpublishes)⟩
  · rw [atomic_bind hrun, h.atomic_settleReview]
    constructor
    · intro hconcludes
      exact ⟨fun hpublishes => absurd hpublishes hnot, fun hdecides => hconcludes hdecides.2⟩
    · rintro ⟨-, hconcludes⟩ hself
      exact hconcludes ⟨hprepares, hself⟩
  · refine iff_of_true (atomic_bind_error hrun) ⟨fun hpublishes => absurd hpublishes hnot, ?_⟩
    exact fun hdecides => absurd hdecides.1 hprepares

/-- A review that ends in an error changes nothing exactly where it moves a run plan or publishes a
repair only for a reviewer who decides, and nothing fails after the decision. -/
theorem review_atomic_iff (S : ReviewServices Content) (command : ReviewCommand)
    (w : ReviewWorld Content) :
    Atomic (updateApproval S command) w ↔
      ∀ checked, checkReview S command w = .ok checked →
        (checked.planChange.isSome ∨ Publishes S command checked w →
          Decides S command checked w) ∧
        (Decides S command checked w → Concludes S command checked w.rules w.artifacts) := by
  rw [updateApproval, atomic_bind (run_get w)]
  cases hcheck : checkReview S command w with
  | error e =>
    refine iff_of_true (atomic_bind_error (run_ofExcept _ _)) fun checked hchecked => ?_
    cases hchecked
  | ok checked =>
    obtain ⟨hfound, hplanFound⟩ := found_of_checkReview hcheck
    have hone : (∀ other, (Except.ok checked : Except ApiError Checked) = .ok other →
        (other.planChange.isSome ∨ Publishes S command other w → Decides S command other w) ∧
          (Decides S command other w → Concludes S command other w.rules w.artifacts)) ↔
        (checked.planChange.isSome ∨ Publishes S command checked w →
          Decides S command checked w) ∧
          (Decides S command checked w → Concludes S command checked w.rules w.artifacts) := by
      constructor
      · intro h
        exact h checked rfl
      · rintro h other heq
        cases heq
        exact h
    rw [hone, ofExcept_ok_bind]
    cases hplan : checked.planChange with
    | none =>
      have hnothing : (applyPlanChange command.actorId none :
          Effect (ReviewWorld Content) ApiError Unit).run w = (.ok (), w) := rfl
      rw [atomic_bind hnothing]
      refine hfound.atomic_decideReview.trans (and_congr_left fun _ => ?_)
      exact ⟨fun h hwrites => h (hwrites.resolve_left Bool.false_ne_true), fun h hp => h (.inr hp)⟩
    | some change =>
      obtain ⟨plans, hrun, hwritten⟩ :=
        run_applyPlanChange command.actorId (hplanFound change hplan)
      have hfound' : Found command { w with plans := plans } checked := hfound.congr rfl
      refine (atomic_bind_of_written hrun hwritten (grows_decideReview change.runPlanId)).trans ?_
      refine hfound'.returns_decideReview.trans ?_
      have hdecides : Decides S command checked { w with plans := plans } ↔
          Decides S command checked w := Iff.rfl
      rw [hdecides]
      exact ⟨fun h => ⟨fun _ => h.1, fun _ => h.2⟩, fun h => ⟨h.1 (.inl rfl), h.2 (h.1 (.inl rfl))⟩⟩

end Reviews

/-! ### A request that its requester approves -/

section Example

local instance sampleRuntimeReview : PyRuntime := .ascii (fun _ => .nan) (fun _ => [])

local instance sampleNumeralsReview : PyNumerals := ⟨fun _ => none, fun _ => none, id⟩

local instance sampleDatetimeReview : PyDatetime := .epoch

/-- Services without rules, for a reviewer with all scopes. -/
def permissive : ReviewServices Unit where
  hasRequiredScope _ _ := true
  overrides _ := none
  approvalTransitions := approvalStatusTransitions
  page := id
  compileRule _ _ _ := []
  buildExpectations _ _ _ := .ok []
  rowConditionMeta _ := .ok .null
  buildEnvelope _ := .error (valueError [])
  gxPayloadDict _ := []
  coerceSuite _ := .error (valueError [])
  artifactOfSuite _ := .error (valueError [])
  ruleIds _ := []
  hashPayload _ := []

/-- The request to activate a version of a run plan. -/
def activationRequest : Approval where
  businessKey := "approval"
  ruleId := []
  gxRunPlanId := some "plan"
  gxRunPlanVersionId := some "first"
  status := "pending"
  requesterId := some "requester"
  workspaceId := "default"
  requestType := "activation"
  effectiveStatus := some "activated"
  effectiveAt := none
  comments := none
  requestedAt := none
  reviewedBy := none
  reviewedAt := none

/-- The version waits for its approval. -/
def requestedWorld : ReviewWorld Unit where
  approvals := ⟨[("approval", activationRequest)], []⟩
  plans := ((transitionPlanVersion "plan" requestActivation.transition).run
    draftWorld.plans).2
  rules := ⟨[], ["user-admin"], List.mem_singleton_self _⟩
  artifacts := ⟨[], []⟩

/-- The requester approves. -/
def selfApproval : ReviewCommand where
  approvalId := "approval"
  payload := [("status", .text "approved")]
  actorId := some "requester"
  grantedScopes := []
  utcNow := .now 0
  nowIso := []
  timestamp := []
  now := 0

/-- The requester is refused, and the version is approved. -/
theorem review_atomic_counterexample :
    ¬∀ (S : ReviewServices Unit) (command : ReviewCommand) (w : ReviewWorld Unit),
      Atomic (updateApproval S command) w := by
  intro h
  have hstate : ((updateApproval permissive selfApproval).run requestedWorld).1.isOk = false ∧
      (recordOf ((updateApproval permissive selfApproval).run requestedWorld).2.plans "plan"
        "first").map Record.governanceState =
          some GovernanceState.approvedPendingActivation.text ∧
      (recordOf requestedWorld.plans "plan" "first").map Record.governanceState =
        some GovernanceState.activationRequested.text := by
    decide +kernel
  obtain ⟨hrefused, hafter, hbefore⟩ := hstate
  cases houtcome : ((updateApproval permissive selfApproval).run requestedWorld).1 with
  | ok updated =>
    rw [houtcome] at hrefused
    cases hrefused
  | error e =>
    have hrecord := congrArg (fun w => (recordOf (ReviewWorld.plans w) "plan"
      "first").map Record.governanceState)
        (h permissive selfApproval requestedWorld (Prod.ext houtcome rfl))
    have hsame : some GovernanceState.approvedPendingActivation.text =
        some GovernanceState.activationRequested.text := hafter.symm.trans (hrecord.trans hbefore)
    cases GovernanceState.text_inj.mp (Option.some.inj hsame)

end Example

end Review

end Approvals

end DqMadeEasy
