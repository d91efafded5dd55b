import DqMadeEasy.RunPlans.Invariant

/-!
# How versions come to be active

A version becomes active from `approved_pending_activation`, which a validation leads to, and also
the approval of a request, that a draft may make at once. The machine remembers of every version
whether its validation was recorded as passed and whether its activation was requested.
-/

namespace DqMadeEasy

namespace RunPlans

open Transition Worker

/-- What a version was vetted by: a validation that passed, a request for its activation, or the
state that it was created in. -/
inductive Vetting where
  | passed | requested | preset
  deriving DecidableEq, Repr

/-- The states that a version is in after its vetting, and until it is superseded or given up. -/
def GovernanceState.beyond : GovernanceState → Bool
  | .pendingReview | .approvedPendingActivation | .activationRequested | .active
  | .deactivationRequested => true
  | _ => false

/-- What an operation vetted its version by: it left `pending_validation` with the result `passed`,
it is in `activation-requested`, or it is created in a later state. -/
def vettings : Option Version → Option Version → List Vetting
  | some before, some after =>
    (if Text.strip before.governanceState = GovernanceState.pendingValidation.text ∧
        Text.strip after.governanceState ≠ GovernanceState.pendingValidation.text ∧
        after.validationStatus = "passed" then [.passed] else []) ++
      if Text.strip after.governanceState = GovernanceState.activationRequested.text then
        [.requested] else []
  | none, some after =>
    if (GovernanceState.ofText? after.governanceState).any GovernanceState.beyond = true then
      [.preset] else []
  | _, none => []

def Repository.version? (plans : Repository) (runPlanId versionId : Text) : Option Version :=
  (plans.getPlan runPlanId).bind fun plan => plan.version? versionId

/-- The version that an operation is about. -/
def Operation.versionId : Operation → Text
  | .create creation => creation.runPlanVersionId
  | .createVersion creation => creation.runPlanVersionId
  | .transition change => change.runPlanVersionId
  | .activate activation => activation.runPlanVersionId
  | .deactivate deactivation => deactivation.runPlanVersionId
  | .recordDispatch dispatch => dispatch.runPlanVersionId

/-- The repository, and how the versions were vetted. -/
structure Machine where
  plans : Repository
  vetted : List (Vetting × Text × Text)

/-- The machine after an operation. -/
def advance (s : Machine) (event : Text × Operation) : Machine where
  plans := next s.plans event
  vetted := s.vetted ++
    (vettings (s.plans.version? event.1 event.2.versionId)
      ((next s.plans event).version? event.1 event.2.versionId)).map
        fun vetting => (vetting, event.1, event.2.versionId)

def Advance (s : Machine) (event : Text × Operation) (s' : Machine) : Prop := s' = advance s event

/-- The empty repository. -/
def start : Machine := ⟨[], []⟩

def Named (event : Text × Operation) : Prop :=
  match event.2 with
  | .transition change => Text.strip change.targetState = change.targetState
  | _ => True

instance : ∀ event, Decidable (Named event)
  | (_, .transition _) => inferInstanceAs (Decidable (_ = _))
  | (_, .create _) | (_, .createVersion _) | (_, .activate _) | (_, .deactivate _)
  | (_, .recordDispatch _) => isTrue trivial

/-! ### Where versions come from -/

def Version.InState (version : Version) (named : GovernanceState) : Prop :=
  Text.strip version.governanceState = named.text

namespace Version.InState

theorem unique {version : Version} {a b : GovernanceState} (ha : version.InState a)
    (hb : version.InState b) : a = b := GovernanceState.text_inj.mp (ha.symm.trans hb)

theorem of_eq_text {version : Version} {a b : GovernanceState} (h : version.InState a)
    (heq : version.governanceState = b.text) : a = b := by
  rw [InState, heq, GovernanceState.strip_text] at h
  exact (GovernanceState.text_inj.mp h).symm

end Version.InState

/-- A version of the plan before, or one that was superseded. -/
theorem version?_supersedePrevious {plan : Plan} {activation : ActivatePlan} {versionId : Text}
    {version : Version}
    (h : (plan.supersedePrevious activation).version? versionId = some version) :
    plan.version? versionId = some version ∨
      version.governanceState = GovernanceState.superseded.text := by
  rw [Plan.supersedePrevious] at h
  split at h
  · exact .inl h
  · split at h
    · exact .inl h
    · split at h
      · exact .inl h
      · rw [Plan.version?_appendTransitionEvent, Plan.version?_putVersion] at h
        split at h
        · cases h
          exact .inr rfl
        · exact .inl h

theorem beyond_of_mem_allowedTransitions {current target : GovernanceState}
    (h : target ∈ current.allowedTransitions) (hbeyond : target.beyond = true) :
    current.beyond = true ∨ target = .activationRequested ∨
      current = .pendingValidation ∧ (target = .pendingReview ∨ target = .approvedPendingActivation) := by
  have htable : ∀ current ∈ GovernanceState.all, ∀ target ∈ current.allowedTransitions,
      target.beyond = true → current.beyond = true ∨ target = .activationRequested ∨
        current = .pendingValidation ∧
          (target = .pendingReview ∨ target = .approvedPendingActivation) := by decide
  exact htable current (GovernanceState.mem_all current) target h hbeyond

/-- A version beyond vetting was one before the operation, or the operation vetted it. -/
def Arises (operation : Operation) (plan? : Option Plan) (versionId : Text) (version : Version) :
    Prop :=
  (∃ before named, plan?.bind (fun plan => plan.version? versionId) = some before ∧
      before.InState named ∧ named.beyond = true) ∨
    operation.versionId = versionId ∧
      vettings (plan?.bind fun plan => plan.version? versionId) (some version) ≠ []

section Arise

variable {plan after : Plan} {versionId : Text} {version : Version} {named : GovernanceState}

theorem arises_of_version? {operation : Operation} (h : plan.version? versionId = some version)
    (hnamed : version.InState named) (hbeyond : named.beyond = true) :
    Arises operation (some plan) versionId version := .inl ⟨version, named, h, hnamed, hbeyond⟩

theorem arises_create {creation : CreatePlan}
    (h : creation.plan.version? versionId = some version) (hnamed : version.InState named)
    (hbeyond : named.beyond = true) : Arises (.create creation) none versionId version := by
  have hid : creation.runPlanVersionId = versionId :=
    congrArg Prod.fst (List.mem_singleton.mp (Assoc.mem_of_find? h)).symm
  refine .inr ⟨hid, ?_⟩
  rw [Option.bind_none, vettings, GovernanceState.ofText?_eq_some.mpr hnamed, Option.any_some,
    if_pos hbeyond]
  exact List.cons_ne_nil _ _

theorem arises_createVersion {creation : CreatePlanVersion}
    (h : (plan.createVersion creation).version? versionId = some version)
    (hnamed : version.InState named) (hbeyond : named.beyond = true) :
    Arises (.createVersion creation) (some plan) versionId version := by
  have hfind : (plan.version? versionId).or
      (Assoc.find? [(creation.runPlanVersionId, creation.version)] versionId) = some version := by
    rw [← h]
    exact (Assoc.find?_append _ _ _).symm
  rcases Option.or_eq_some_iff.mp hfind with hbefore | ⟨-, hnew⟩
  · exact arises_of_version? hbefore hnamed hbeyond
  · cases List.mem_singleton.mp (Assoc.mem_of_find? hnew)
    cases hnamed.of_eq_text (b := .draft) rfl
    cases hbeyond

theorem arises_transition {change : TransitionPlanVersion}
    (hspelled : Text.strip change.targetState = change.targetState)
    (hafter : plan.transitionVersion change = .ok after)
    (h : after.version? versionId = some version) (hnamed : version.InState named)
    (hbeyond : named.beyond = true) :
    Arises (.transition change) (some plan) versionId version := by
  obtain ⟨before, current, target, hfind, hcurrent, htarget, hmem, rfl⟩ :=
    exists_of_transitionVersion hafter
  rw [Plan.applyTransition, Plan.version?_appendTransitionEvent, Plan.version?_putVersion] at h
  split at h
  · rename_i hid
    cases h
    cases hnamed.unique htarget
    subst hid
    have hbind : (some plan).bind (fun plan => plan.version? change.runPlanVersionId) =
        some before := hfind
    rcases beyond_of_mem_allowedTransitions hmem hbeyond with hbefore | rfl | ⟨rfl, hpassed⟩
    · exact .inl ⟨before, current, hbind, hcurrent, hbefore⟩
    · refine .inr ⟨rfl, ?_⟩
      have hrequested : Text.strip (before.transitioned change).governanceState =
          GovernanceState.activationRequested.text := hnamed
      rw [hbind, vettings, if_pos hrequested]
      exact List.append_ne_nil_of_right_ne_nil _ (List.cons_ne_nil _ _)
    · refine .inr ⟨rfl, ?_⟩
      have htext : change.targetState = named.text := hspelled.symm.trans htarget
      have hstatus : (before.transitioned change).validationStatus = "passed" := by
        rw [Version.transitioned]
        rcases hpassed with rfl | rfl <;>
          simp only [htext, GovernanceState.text_inj, reduceCtorEq, if_false, if_true]
      have hleft : Text.strip (before.transitioned change).governanceState ≠
          GovernanceState.pendingValidation.text := by
        intro hpending
        cases hnamed.unique hpending
        rcases hpassed with hpassed | hpassed <;> cases hpassed
      rw [hbind, vettings, if_pos ⟨hcurrent, hleft, hstatus⟩]
      exact List.append_ne_nil_of_left_ne_nil (List.cons_ne_nil _ _) _
  · exact arises_of_version? h hnamed hbeyond

theorem arises_activate {activation : ActivatePlan}
    (hafter : plan.activateVersion activation = .ok after)
    (h : after.version? versionId = some version) (hnamed : version.InState named)
    (hbeyond : named.beyond = true) :
    Arises (.activate activation) (some plan) versionId version := by
  obtain ⟨before, hfind, happroved, rfl⟩ := exists_of_activateVersion hafter
  rw [Plan.applyActivation, Plan.version?_appendTransitionEvent, Plan.version?_putVersion] at h
  split at h
  · rename_i hid
    subst hid
    exact .inl ⟨before, .approvedPendingActivation, hfind, happroved, rfl⟩
  · rcases version?_supersedePrevious h with hbefore | hsuperseded
    · exact arises_of_version? hbefore hnamed hbeyond
    · cases hnamed.of_eq_text hsuperseded
      cases hbeyond

theorem arises_deactivate {deactivation : DeactivatePlan}
    (hafter : plan.deactivateVersion deactivation = .ok after)
    (h : after.version? versionId = some version) (hnamed : version.InState named)
    (hbeyond : named.beyond = true) :
    Arises (.deactivate deactivation) (some plan) versionId version := by
  obtain ⟨before, hfind, -, rfl⟩ := exists_of_deactivateVersion hafter
  rw [Plan.applyDeactivation, Plan.version?_appendTransitionEvent, Plan.version?_putVersion] at h
  split at h
  · cases h
    cases hnamed.of_eq_text (b := .deactivated) rfl
    cases hbeyond
  · exact arises_of_version? h hnamed hbeyond

theorem arises_recordDispatch {dispatch : RecordPlanDispatch}
    (hafter : plan.recordDispatch dispatch = .ok after)
    (h : after.version? versionId = some version) (hnamed : version.InState named)
    (hbeyond : named.beyond = true) :
    Arises (.recordDispatch dispatch) (some plan) versionId version := by
  obtain ⟨before, -, hafter⟩ := exists_of_findVersion hafter
  split at hafter
  · cases hafter
    exact arises_of_version? h hnamed hbeyond
  · cases hafter

end Arise

/-- Where the versions beyond vetting come from. -/
theorem arises {runPlanId versionId : Text} {operation : Operation} {plan? : Option Plan}
    {after : Plan} {version : Version} {named : GovernanceState}
    (hspelled : Named (runPlanId, operation)) (hbecomes : operation.Becomes plan? after)
    (h : after.version? versionId = some version) (hnamed : version.InState named)
    (hbeyond : named.beyond = true) : Arises operation plan? versionId version := by
  cases operation with
  | create creation =>
    obtain ⟨rfl, rfl⟩ := hbecomes
    exact arises_create h hnamed hbeyond
  | createVersion creation =>
    obtain ⟨plan, rfl, rfl⟩ := hbecomes
    exact arises_createVersion h hnamed hbeyond
  | transition change =>
    obtain ⟨plan, rfl, hafter⟩ := hbecomes
    exact arises_transition hspelled hafter h hnamed hbeyond
  | activate activation =>
    obtain ⟨plan, rfl, hafter⟩ := hbecomes
    exact arises_activate hafter h hnamed hbeyond
  | deactivate deactivation =>
    obtain ⟨plan, rfl, hafter⟩ := hbecomes
    exact arises_deactivate hafter h hnamed hbeyond
  | recordDispatch dispatch =>
    obtain ⟨plan, rfl, hafter⟩ := hbecomes
    exact arises_recordDispatch hafter h hnamed hbeyond

/-! ### Runs -/

def AllVetted (s : Machine) : Prop :=
  ∀ runPlanId versionId version, s.plans.version? runPlanId versionId = some version →
    ∀ named, version.InState named → named.beyond = true →
      ∃ vetting, (vetting, runPlanId, versionId) ∈ s.vetted

theorem AllVetted.step {s s' : Machine} {event : Text × Operation} (h : AllVetted s)
    (hstep : Advance s event s') (hnamed : Named event) : AllVetted s' := by
  rw [Advance] at hstep
  subst hstep
  intro runPlanId versionId version hfind named hstate hbeyond
  have hkept (hbefore : ∃ before named, s.plans.version? runPlanId versionId = some before ∧
      before.InState named ∧ named.beyond = true) :
      ∃ vetting, (vetting, runPlanId, versionId) ∈ (advance s event).vetted := by
    obtain ⟨before, named, hbefore, hstate, hbeyond⟩ := hbefore
    obtain ⟨vetting, hmem⟩ := h runPlanId versionId before hbefore named hstate hbeyond
    exact ⟨vetting, List.mem_append_left _ hmem⟩
  rcases event.2.run_perform event.1 s.plans with ⟨exc, hrun⟩ | ⟨after, hbecomes, hrun⟩
  · have hsame : next s.plans event = s.plans := congrArg Prod.snd hrun
    refine hkept ⟨version, named, ?_, hstate, hbeyond⟩
    rw [← hsame]
    exact hfind
  · have hnext : next s.plans event = Assoc.update event.1 (fun _ => after) s.plans :=
      congrArg Prod.snd hrun
    have hplan (id : Text) : Repository.getPlan (next s.plans event) id =
        if event.1 = id then some after else s.plans.getPlan id := by
      rw [hnext]
      exact Assoc.find?_update event.1 (fun _ => after) s.plans id
    have hversion : (Repository.getPlan (next s.plans event) runPlanId).bind
      (fun plan => plan.version? versionId) = some version := hfind
    rw [hplan] at hversion
    split at hversion
    · rename_i hid
      subst hid
      rw [Option.bind_some] at hversion
      rcases arises hnamed hbecomes hversion hstate hbeyond with hbefore | ⟨rfl, hvetted⟩
      · exact hkept hbefore
      · obtain ⟨vetting, hmem⟩ := List.exists_mem_of_ne_nil _ hvetted
        have hafter : (next s.plans event).version? event.1 event.2.versionId = some version :=
          hfind
        refine ⟨vetting, List.mem_append_right _ (List.mem_map.mpr ⟨vetting, ?_, rfl⟩)⟩
        rw [hafter]
        exact hmem
    · exact hkept ⟨version, named, hversion, hstate, hbeyond⟩

def validatedRoute : List (Text × Operation) :=
  [createDraft, moveTo "first" .pendingValidation, moveTo "first" .pendingReview,
    moveTo "first" .approvedPendingActivation] ++ (goLive "first").drop 2

/-- A version whose activation is requested while it is a draft. -/
def requestedRoute : List (Text × Operation) := createDraft :: goLive "first"

theorem routes :
    (Transition.MeetAll advance (fun _ event => Named event) validatedRoute start ∧
      ((validatedRoute.foldl advance start).plans.version? "plan".toList "first".toList).any
        (fun version => version.governanceState = GovernanceState.active.text) = true) ∧
    Transition.MeetAll advance (fun _ event => Named event) requestedRoute start ∧
      ((requestedRoute.foldl advance start).plans.version? "plan".toList "first".toList).any
        (fun version => version.governanceState = GovernanceState.active.text) = true ∧
      (Vetting.passed, "plan".toList, "first".toList) ∉
        (requestedRoute.foldl advance start).vetted := by
  decide +kernel

end RunPlans

end DqMadeEasy
