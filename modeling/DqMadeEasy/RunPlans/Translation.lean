import DqMadeEasy.Artifacts.Projection
import DqMadeEasy.Logic.RoundTrip
import DqMadeEasy.RunPlans.Plan

/-!
# Run plans in two vocabularies

A run plan is a GX run plan for its use cases and a validation run plan for its repository. The two
entities have the same fields, one under names for suites and one under names for artifacts, and
each version is rewritten field by field. A dictionary of a version is seen here through the keys
that its translation names; its other entries are the `rest`.
-/

namespace DqMadeEasy

namespace RunPlans

open Artifacts RoundTrip Worker

/-! ### Scope selectors -/

/-- `GxRunPlanAssignmentScopeEntity`, or the one of validation run plans. -/
structure PlanAssignmentScope where
  dataObjectId : Option Text
  datasetId : Option Text
  dataProductId : Option Text
  tagIds : List Text
  extra : Dict

/-- `GxRunPlanScopeSelectorEntity`, or the one of validation run plans. -/
structure ScopeSelector where
  assignmentScope : Option PlanAssignmentScope
  dataObjectId : Option Text
  dataObjectVersionId : Option Text
  datasetId : Option Text
  dataProductId : Option Text
  tagIds : List Text
  workspaceId : Option Text
  extra : Dict

/-- The workspace of a selector, or the one under its other spelling. -/
def readWorkspaceId (workspaceId : Option Text) (extra : Dict) : Except PyError (Option Text) :=
  match workspaceId with
  | some id => .ok (some id)
  | none =>
    match extra.get "workspace_id" with
    | .scalar .none => .ok none
    | .scalar (.str id) => .ok (some id)
    | _ => .error (.builtin "ValidationError" "Input should be a valid string")

/-- The assignment scope that is built of a dump without `None`. -/
def PlanAssignmentScope.reread (scope : PlanAssignmentScope) : PlanAssignmentScope :=
  { scope with extra := withoutNone scope.extra }

/-- `build_validation_run_plan_scope_selector_entity` of the dump of a GX selector, and
`build_gx_run_plan_scope_selector_entity` of the dump of the other. -/
def ScopeSelector.reread (selector : ScopeSelector) : Except PyError ScopeSelector := do
  let workspaceId ← readWorkspaceId selector.workspaceId selector.extra
  return { selector with
    assignmentScope := selector.assignmentScope.map PlanAssignmentScope.reread
    workspaceId := workspaceId
    extra := withoutNone selector.extra }

/-! ### Selections -/

/-- An item of `suiteRefs` or of `artifactRefs`: a key that is not there is `none`. -/
structure RefPayload where
  id : Option Json
  version : Option Json
  engineType : Option Json
  rest : Dict

/-- The items of a list of references. -/
inductive RefItem where
  | mapping (ref : RefPayload)
  | other (value : Json)

/-- The value of `suiteRefs` or of `artifactRefs`. -/
inductive RefList where
  | absent
  | list (items : List RefItem)
  | other (value : Json)

/-- A suite selection or an artifact selection, by the references of its own vocabulary and the
value under the key of the other one. -/
structure SelectionPayload where
  refs : RefList
  foreign : Option Json
  rest : Dict

/-- A reference in the other vocabulary. -/
def RefPayload.translate (ref : RefPayload) : RefPayload where
  id := some (ref.id.getD .null)
  version := some (ref.version.getD .null)
  engineType :=
    let engineType := ref.engineType.getD .null
    some (if engineType.isNone then ref.rest.get "engine_type" else engineType)
  rest := []

def RefItem.translate? : RefItem → Option RefItem
  | .mapping ref => some (.mapping ref.translate)
  | .other _ => none

/-- `build_validation_artifact_selection_payload_from_gx_suite_selection`, and the way back. A value
that is no list stays under its own key. -/
def SelectionPayload.translate (selection : SelectionPayload) : SelectionPayload :=
  match selection.refs with
  | .absent => ⟨.list [], none, selection.rest⟩
  | .other value => ⟨.list [], some value, selection.rest⟩
  | .list items => ⟨.list (items.filterMap RefItem.translate?), none, selection.rest⟩

/-! ### Snapshots -/

/-- The snapshot of a version: that of one envelope, or of several with their grouped plan. -/
inductive SnapshotPayload (Envelope : Type) where
  | single (envelope : Envelope)
  | grouped (groupedExecutionPlan : Option Dict) (envelopes : List Envelope)

namespace SnapshotPayload

/-- `build_validation_artifact_snapshot_payload_from_gx_snapshot`. -/
def toValidation : SnapshotPayload GxArtifactEnvelope →
    Except PyError (SnapshotPayload ValidationArtifactEnvelope)
  | .single envelope => (buildValidationArtifactEnvelopeFromGxArtifact envelope).map .single
  | .grouped groupedExecutionPlan envelopes =>
    (envelopes.mapM buildValidationArtifactEnvelopeFromGxArtifact).map
      (.grouped groupedExecutionPlan)

/-- `build_gx_artifact_snapshot_payload_from_validation_snapshot`. -/
def toGx : SnapshotPayload ValidationArtifactEnvelope → SnapshotPayload GxArtifactEnvelope
  | .single envelope =>
    .single (buildGxArtifactEnvelopeFromValidationArtifact envelope).withoutNone
  | .grouped groupedExecutionPlan envelopes =>
    .grouped groupedExecutionPlan (envelopes.map fun envelope =>
      (buildGxArtifactEnvelopeFromValidationArtifact envelope).withoutNone)

def envelopes {Envelope : Type} : SnapshotPayload Envelope → List Envelope
  | .single envelope => [envelope]
  | .grouped _ envelopes => envelopes

end SnapshotPayload

/-! ### Plans -/

/-- `GxRunPlanVersionEntity`, or `ValidationRunPlanVersionEntity`. -/
structure VersionRecord (Envelope : Type) where
  runPlanVersionId : Text
  runPlanId : Text
  governanceState : Text
  selection : SelectionPayload
  artifactId : Option Text
  artifactVersion : Option ℤ
  snapshot : Option (SnapshotPayload Envelope)
  scheduleDefinition : Dict
  executionContractSnapshot : Option Dict
  validationStatus : Option Text
  reviewStatus : Option Text
  effectiveFrom : Option Text
  supersedesVersionId : Option Text
  createdBy : Option Text
  createdAt : Text

/-- `GxRunPlanTransitionEventEntity`, or the one of validation run plans. -/
structure TransitionRecord where
  id : Text
  runPlanId : Text
  runPlanVersionId : Option Text
  action : Text
  fromState : Option Text
  toState : Option Text
  actorId : Option Text
  correlationId : Option Text
  effectiveFrom : Option Text
  details : Dict
  occurredAt : Text

/-- `GxRunPlanEntity`, or `ValidationRunPlanEntity`. -/
structure PlanRecord (Envelope : Type) where
  runPlanId : Text
  businessKey : Option Text
  workspaceId : Text
  scopeSelector : ScopeSelector
  planningMode : Text
  currentActiveVersionId : Option Text
  status : Text
  pendingVersionId : Option Text
  pendingVersionGovernanceState : Option Text
  createdBy : Option Text
  createdAt : Text
  updatedAt : Text
  activatedBy : Option Text
  activatedAt : Option Text
  lastDispatchedRunId : Option Text
  versions : List (VersionRecord Envelope)
  transitionEvents : List TransitionRecord

abbrev GxRunPlan := PlanRecord GxArtifactEnvelope

abbrev ValidationRunPlan := PlanRecord ValidationArtifactEnvelope

def VersionRecord.toValidation (version : VersionRecord GxArtifactEnvelope) :
    Except PyError (VersionRecord ValidationArtifactEnvelope) := do
  let snapshot ← version.snapshot.mapM SnapshotPayload.toValidation
  return { version with selection := version.selection.translate, snapshot := snapshot }

/-- A version of a validation run plan as one of a GX run plan. -/
def VersionRecord.toGx (version : VersionRecord ValidationArtifactEnvelope) :
    VersionRecord GxArtifactEnvelope :=
  { version with
    selection := version.selection.translate
    snapshot := version.snapshot.map SnapshotPayload.toGx }

def buildValidationRunPlanEntityFromGxRunPlan (plan : GxRunPlan) :
    Except PyError ValidationRunPlan := do
  let versions ← plan.versions.mapM VersionRecord.toValidation
  let scopeSelector ← plan.scopeSelector.reread
  return { plan with scopeSelector := scopeSelector, versions := versions }

def buildGxRunPlanEntityFromValidationRunPlan (plan : ValidationRunPlan) :
    Except PyError GxRunPlan := do
  let scopeSelector ← plan.scopeSelector.reread
  return { plan with
    scopeSelector := scopeSelector
    versions := plan.versions.map VersionRecord.toGx }

/-! ### What a round trip keeps -/

/-- The envelope has no field that a validation artifact forbids, and a builder keeps its dump. -/
structure Complete (envelope : GxArtifactEnvelope) : Prop where
  declared : envelope.Declared
  canonical : envelope.Canonical

theorem normalizes_envelope : Normalizes buildValidationArtifactEnvelopeFromGxArtifact
    (fun artifact => (buildGxArtifactEnvelopeFromValidationArtifact artifact).withoutNone)
    (fun envelope => envelope.withoutNone.rebuilt) := by
  intro payload artifact h
  dsimp only
  rw [buildGx_of_buildValidation h, GxArtifactEnvelope.withoutNone_rebuilt,
    GxArtifactEnvelope.withoutNone_withoutNone]

theorem keeps_envelope_iff {envelope : GxArtifactEnvelope} :
    Keeps buildValidationArtifactEnvelopeFromGxArtifact
      (fun artifact => (buildGxArtifactEnvelopeFromValidationArtifact artifact).withoutNone)
      envelope ↔ Complete envelope := by
  rw [normalizes_envelope.keeps_encoded_iff, GxArtifactEnvelope.withoutNone_rebuilt_eq_self,
    buildValidationArtifactEnvelopeFromGxArtifact, exists_buildValidationArtifactEnvelope_iff,
    GxArtifactEnvelope.declared_rebuilt]
  exact ⟨fun h => ⟨h.1, h.2⟩, fun h => ⟨h.declared, h.canonical⟩⟩

theorem keeps_snapshot_iff {snapshot : SnapshotPayload GxArtifactEnvelope} :
    Keeps SnapshotPayload.toValidation SnapshotPayload.toGx snapshot ↔
      ∀ envelope ∈ snapshot.envelopes, Complete envelope := by
  cases snapshot with
  | single envelope =>
    rw [SnapshotPayload.envelopes, List.forall_mem_singleton, ← keeps_envelope_iff]
    constructor
    · rintro ⟨code, hcode, hback⟩
      obtain ⟨artifact, hartifact, rfl⟩ := ok_of_map hcode
      exact ⟨artifact, hartifact, SnapshotPayload.single.inj hback⟩
    · rintro ⟨artifact, hartifact, hback⟩
      refine ⟨.single artifact, ?_, congrArg SnapshotPayload.single hback⟩
      rw [SnapshotPayload.toValidation, hartifact]
      rfl
  | grouped groupedExecutionPlan envelopes =>
    rw [SnapshotPayload.envelopes]
    simp only [← keeps_envelope_iff]
    rw [← keeps_mapM_iff]
    constructor
    · rintro ⟨code, hcode, hback⟩
      obtain ⟨artifacts, hartifacts, rfl⟩ := ok_of_map hcode
      exact ⟨artifacts, hartifacts, (SnapshotPayload.grouped.inj hback).2⟩
    · rintro ⟨artifacts, hartifacts, hback⟩
      refine ⟨.grouped groupedExecutionPlan artifacts, ?_,
        congrArg (SnapshotPayload.grouped groupedExecutionPlan) hback⟩
      rw [SnapshotPayload.toValidation, hartifacts]
      rfl

/-- A reference with its three keys and no other. -/
def RefItem.Complete : RefItem → Prop
  | .mapping ref => ref.id.isSome ∧ ref.version.isSome ∧ ref.engineType.isSome ∧ ref.rest = []
  | .other _ => False

/-- A selection with a list of complete references, and no references of the other vocabulary. -/
structure SelectionPayload.Complete (selection : SelectionPayload) : Prop where
  refs : ∃ items, selection.refs = .list items ∧ ∀ item ∈ items, item.Complete
  foreign : selection.foreign = none

/-- What is read where a value is `None` makes no difference if that is `None` too. -/
theorem ite_isNone_null (value : Json) : (if value.isNone then .null else value) = value := by
  cases value with
  | scalar value => cases value <;> rfl
  | list items => rfl
  | dict entries => rfl

theorem RefPayload.translate_translate (ref : RefPayload) :
    ref.translate.translate = ref.translate := by
  have hget : Dict.get [] "engine_type" = .null := rfl
  simp only [RefPayload.translate, Option.getD_some, hget, ite_isNone_null]

theorem RefPayload.translate_eq_self {ref : RefPayload} :
    ref.translate = ref ↔ (RefItem.mapping ref).Complete := by
  constructor
  · intro h
    rw [← h]
    exact ⟨rfl, rfl, rfl, rfl⟩
  · obtain ⟨id, version, engineType, rest⟩ := ref
    rintro ⟨hid, hversion, hengine, rfl⟩
    obtain ⟨id, rfl⟩ := Option.isSome_iff_exists.mp hid
    obtain ⟨version, rfl⟩ := Option.isSome_iff_exists.mp hversion
    obtain ⟨engineType, rfl⟩ := Option.isSome_iff_exists.mp hengine
    have hget : Dict.get [] "engine_type" = .null := rfl
    simp only [RefPayload.translate, Option.getD_some, hget, ite_isNone_null]

theorem filterMap_translate_translate (items : List RefItem) :
    (items.filterMap RefItem.translate?).filterMap RefItem.translate? =
      items.filterMap RefItem.translate? := by
  rw [List.filterMap_filterMap]
  congr 1
  funext item
  cases item with
  | mapping ref =>
    rw [RefItem.translate?, Option.bind_some, RefItem.translate?, RefPayload.translate_translate]
  | other value => rfl

theorem filterMap_translate_eq_self {items : List RefItem} :
    items.filterMap RefItem.translate? = items ↔ ∀ item ∈ items, item.Complete := by
  induction items with
  | nil => simp
  | cons item items ih =>
    rw [List.forall_mem_cons, ← ih]
    cases item with
    | mapping ref =>
      rw [List.filterMap_cons_some (by rfl), List.cons.injEq, RefItem.mapping.injEq,
        RefPayload.translate_eq_self]
    | other value =>
      rw [List.filterMap_cons_none (by rfl)]
      refine iff_of_false (fun h => ?_) (fun h => h.1)
      have hlength := congrArg List.length h
      have hle := List.length_filterMap_le RefItem.translate? items
      rw [List.length_cons] at hlength
      omega

theorem SelectionPayload.translate_list (items : List RefItem) (foreign : Option Json)
    (rest : Dict) : (SelectionPayload.mk (.list items) foreign rest).translate =
      ⟨.list (items.filterMap RefItem.translate?), none, rest⟩ := rfl

/-- Two translations keep exactly the complete selections. -/
theorem SelectionPayload.translate_translate_eq_self {selection : SelectionPayload} :
    selection.translate.translate = selection ↔ selection.Complete := by
  obtain ⟨refs, foreign, rest⟩ := selection
  constructor
  · intro h
    cases refs with
    | absent => cases h
    | other value => cases h
    | list items =>
      rw [translate_list, translate_list, SelectionPayload.mk.injEq, RefList.list.injEq,
        filterMap_translate_translate, filterMap_translate_eq_self] at h
      exact ⟨⟨items, rfl, h.1⟩, h.2.1.symm⟩
  · rintro ⟨⟨items, rfl, hitems⟩, rfl⟩
    rw [translate_list, translate_list, filterMap_translate_translate,
      filterMap_translate_eq_self.mpr hitems]

/-- The version has a complete selection and complete envelopes. -/
structure VersionRecord.Complete (version : VersionRecord GxArtifactEnvelope) : Prop where
  selection : version.selection.Complete
  snapshot : ∀ snapshot ∈ version.snapshot, ∀ envelope ∈ snapshot.envelopes,
    RunPlans.Complete envelope

theorem keeps_version_iff {version : VersionRecord GxArtifactEnvelope} :
    Keeps VersionRecord.toValidation VersionRecord.toGx version ↔ version.Complete := by
  have hsnapshot : Keeps (Option.mapM SnapshotPayload.toValidation) (Option.map SnapshotPayload.toGx)
      version.snapshot ↔ ∀ snapshot ∈ version.snapshot, ∀ envelope ∈ snapshot.envelopes,
        RunPlans.Complete envelope :=
    keeps_optionMapM_iff.trans (forall₂_congr fun _ _ => keeps_snapshot_iff)
  constructor
  · rintro ⟨code, hcode, hback⟩
    obtain ⟨snapshot, hsnapshotCode, h⟩ := ok_of_bind hcode
    cases h
    exact ⟨SelectionPayload.translate_translate_eq_self.mp (congrArg VersionRecord.selection hback),
      hsnapshot.mp ⟨snapshot, hsnapshotCode, congrArg VersionRecord.snapshot hback⟩⟩
  · intro h
    obtain ⟨snapshot, hcode, hback⟩ := hsnapshot.mpr h.snapshot
    refine ⟨{ version with selection := version.selection.translate, snapshot := snapshot }, ?_, ?_⟩
    · rw [VersionRecord.toValidation, hcode]
      rfl
    · rw [VersionRecord.toGx]
      dsimp only
      rw [hback, SelectionPayload.translate_translate_eq_self.mpr h.selection]

/-- No extra field of a selector is `None`, and its workspace stands under its own name. -/
structure ScopeSelector.Complete (selector : ScopeSelector) : Prop where
  assignmentScope : ∀ scope ∈ selector.assignmentScope, NoneFree scope.extra
  extra : NoneFree selector.extra
  workspaceId : selector.workspaceId.isSome ∨ (selector.extra.get "workspace_id").isNone = true

theorem readWorkspaceId_eq_self {workspaceId : Option Text} {extra : Dict} :
    readWorkspaceId workspaceId extra = .ok workspaceId ↔
      workspaceId.isSome ∨ (extra.get "workspace_id").isNone = true := by
  cases workspaceId with
  | some id => exact iff_of_true rfl (.inl rfl)
  | none =>
    rw [readWorkspaceId]
    split <;> simp_all [Json.isNone]

theorem PlanAssignmentScope.reread_eq_self {scope : PlanAssignmentScope} :
    scope.reread = scope ↔ NoneFree scope.extra := by
  cases scope
  simp [PlanAssignmentScope.reread, withoutNone_eq_self]

/-- A reading keeps exactly the complete selectors. -/
theorem ScopeSelector.reread_eq_self {selector : ScopeSelector} :
    selector.reread = .ok selector ↔ selector.Complete := by
  constructor
  · intro h
    obtain ⟨workspaceId, hworkspace, h⟩ := ok_of_bind h
    have hfields := Except.ok.inj h
    have hsame : workspaceId = selector.workspaceId := congrArg ScopeSelector.workspaceId hfields
    rw [hsame] at hworkspace
    exact ⟨fun scope hscope => PlanAssignmentScope.reread_eq_self.mp
        (map_eq_self_iff.mp (congrArg ScopeSelector.assignmentScope hfields) scope hscope),
      withoutNone_eq_self.mp (congrArg ScopeSelector.extra hfields),
      readWorkspaceId_eq_self.mp hworkspace⟩
  · intro h
    have hscope : selector.assignmentScope.map PlanAssignmentScope.reread =
        selector.assignmentScope :=
      map_eq_self_iff.mpr fun scope hscope =>
        PlanAssignmentScope.reread_eq_self.mpr (h.assignmentScope scope hscope)
    rw [ScopeSelector.reread, readWorkspaceId_eq_self.mpr h.workspaceId, ok_bind, hscope,
      withoutNone_eq_self.mpr h.extra]
    rfl

/-- A selector that comes back from two readings is kept by one. -/
theorem ScopeSelector.reread_of_reread_reread {selector read : ScopeSelector}
    (hread : selector.reread = .ok read) (hback : read.reread = .ok selector) :
    selector.reread = .ok selector := by
  obtain ⟨workspaceId, hworkspace, h⟩ := ok_of_bind hread
  cases h
  obtain ⟨workspaceId', hworkspace', h⟩ := ok_of_bind hback
  have hfields := Except.ok.inj h
  have hsame : workspaceId' = selector.workspaceId := congrArg ScopeSelector.workspaceId hfields
  have hextra : NoneFree selector.extra := by
    rw [← congrArg ScopeSelector.extra hfields]
    exact noneFree_withoutNone _
  rw [hsame] at hworkspace'
  dsimp only at hworkspace'
  rw [withoutNone_eq_self.mpr hextra] at hworkspace'
  rw [ScopeSelector.reread_eq_self]
  refine ⟨fun scope hscope => ?_, hextra, ?_⟩
  · rw [← congrArg ScopeSelector.assignmentScope hfields] at hscope
    obtain ⟨_, _, rfl⟩ := Option.map_eq_some_iff.mp hscope
    exact noneFree_withoutNone _
  · rw [← readWorkspaceId_eq_self]
    cases hid : selector.workspaceId with
    | some id => rfl
    | none =>
      rw [hid] at hworkspace hworkspace'
      cases workspaceId with
      | some id => cases hworkspace'
      | none => exact hworkspace

/-- The plan's selector and its versions are complete. -/
structure PlanRecord.Complete (plan : GxRunPlan) : Prop where
  scopeSelector : plan.scopeSelector.Complete
  versions : ∀ version ∈ plan.versions, version.Complete

/-- A GX run plan is accepted and comes back from its validation run plan as it was exactly when its
selector, its selections and the envelopes of its snapshots are complete. -/
theorem roundTrip_iff (plan : GxRunPlan) :
    (∃ validationPlan, buildValidationRunPlanEntityFromGxRunPlan plan = .ok validationPlan ∧
      buildGxRunPlanEntityFromValidationRunPlan validationPlan = .ok plan) ↔ plan.Complete := by
  have hversions : Keeps (List.mapM VersionRecord.toValidation) (List.map VersionRecord.toGx)
      plan.versions ↔ ∀ version ∈ plan.versions, version.Complete :=
    keeps_mapM_iff.trans (forall₂_congr fun _ _ => keeps_version_iff)
  constructor
  · rintro ⟨validationPlan, hcode, hback⟩
    obtain ⟨versions, hcodes, h⟩ := ok_of_bind hcode
    obtain ⟨selector, hselector, h⟩ := ok_of_bind h
    cases h
    obtain ⟨selector', hselector', h⟩ := ok_of_bind hback
    have hfields := Except.ok.inj h
    have hsame : selector' = plan.scopeSelector := congrArg PlanRecord.scopeSelector hfields
    rw [hsame] at hselector'
    exact ⟨ScopeSelector.reread_eq_self.mp
        (ScopeSelector.reread_of_reread_reread hselector hselector'),
      hversions.mp ⟨versions, hcodes, congrArg PlanRecord.versions hfields⟩⟩
  · intro h
    obtain ⟨versions, hcodes, hback⟩ := hversions.mpr h.versions
    have hselector := ScopeSelector.reread_eq_self.mpr h.scopeSelector
    refine ⟨{ plan with scopeSelector := plan.scopeSelector, versions := versions }, ?_, ?_⟩
    · rw [buildValidationRunPlanEntityFromGxRunPlan, hcodes, ok_bind, hselector]
      rfl
    · rw [buildGxRunPlanEntityFromValidationRunPlan]
      dsimp only
      rw [hselector, ok_bind, hback]
      rfl

/-- A suite with a tag and with nothing else that is optional. -/
def taggedEnvelope : GxArtifactEnvelope where
  suiteId := "suite"
  suiteVersion := 1
  suiteVersion_pos := Nat.one_pos
  artifactVersion := "v1"
  assignmentScope := ⟨some "orders", none, none, ["pii"]⟩
  resolvedExecutionScope := ⟨["orders-v1"]⟩
  gxSuite := []
  distinctKeys := Json.distinctKeys_nil
  compiledFrom := ⟨[], "1", "2026-01-01"⟩
  executionHints := ⟨some "gx", [], [], none, none⟩
  executionContract := none
  savedBy := none
  sourcePipeline := none
  status := none
  artifactHash := none

/-- A run plan of one version of that suite. -/
def taggedPlan : GxRunPlan where
  runPlanId := "plan"
  businessKey := none
  workspaceId := "default"
  scopeSelector := ⟨none, none, none, none, none, [], none, []⟩
  planningMode := "single_suite"
  currentActiveVersionId := none
  status := "draft"
  pendingVersionId := none
  pendingVersionGovernanceState := none
  createdBy := none
  createdAt := []
  updatedAt := []
  activatedBy := none
  activatedAt := none
  lastDispatchedRunId := none
  versions := [{
    runPlanVersionId := "version"
    runPlanId := "plan"
    governanceState := "draft"
    selection := ⟨.list [], none, []⟩
    artifactId := some "suite"
    artifactVersion := some 1
    snapshot := some (.single taggedEnvelope)
    scheduleDefinition := []
    executionContractSnapshot := none
    validationStatus := none
    reviewStatus := none
    effectiveFrom := none
    supersedesVersionId := none
    createdBy := none
    createdAt := [] }]
  transitionEvents := []

def envelopeTags (plan : GxRunPlan) : List (List Text) :=
  plan.versions.flatMap fun version => version.snapshot.toList.flatMap fun snapshot =>
    snapshot.envelopes.map fun envelope => envelope.assignmentScope.tagIds

/-- The tag is lost. -/
theorem taggedPlan_not_kept :
    ¬ ∃ validationPlan, buildValidationRunPlanEntityFromGxRunPlan taggedPlan = .ok validationPlan ∧
      buildGxRunPlanEntityFromValidationRunPlan validationPlan = .ok taggedPlan := by
  rintro ⟨validationPlan, hcode, hback⟩
  have hboth : (buildValidationRunPlanEntityFromGxRunPlan taggedPlan >>=
      buildGxRunPlanEntityFromValidationRunPlan) = .ok taggedPlan := by
    rw [hcode]
    exact hback
  have htags := congrArg (fun plan => plan.toOption.map envelopeTags) hboth
  revert htags
  decide +kernel

end RunPlans

end DqMadeEasy
