import DqMadeEasy.Lifecycle.Postgres
import DqMadeEasy.Logic.Fallible
import DqMadeEasy.Logic.Transition

/-!
# The state of a rule

What decides the status of a rule is the same in both repositories: whether it is removed, whether it
is active, and the status that was recorded last. A status table has the last word on activation
when no active flag turns on except from a status that the table lets move to `activated`.
-/

namespace DqMadeEasy

namespace Lifecycle

open Transition

/-- What governs a rule. -/
structure RuleState where
  removed : Bool
  active : Bool
  lastApprovalStatus : Option Text

section Governed

variable [PyRuntime]

def RuleState.status (g : RuleState) : Text :=
  ruleStatusOf g.removed g.active g.lastApprovalStatus

/-- The recorded status, if any, amounts to one that the methods record. -/
def RuleState.Recorded (g : RuleState) : Prop :=
  normalizeRuleStatus g.lastApprovalStatus = [] ∨
    normalizeRuleStatus g.lastApprovalStatus ∈ recordedStatuses

/-- The table lets a rule of this status move to `activated`. -/
def AllowsActivation (overrides : PolicyOverrides) (status : Text) : Prop :=
  isTransitionDefined overrides .rule status "activated" = true

instance (overrides : PolicyOverrides) (status : Text) :
    Decidable (AllowsActivation overrides status) := inferInstanceAs (Decidable (_ = true))

/-- A change of a rule that the table sanctions. -/
structure Sanctioned (overrides : PolicyOverrides) (g g' : RuleState) : Prop where
  recorded : g'.Recorded
  allowed : g.active = false → g'.active = true → AllowsActivation overrides g.status

variable {overrides : PolicyOverrides} {g g' : RuleState}

theorem RuleState.status_mem (h : g.Recorded) (hactive : g.active = false) :
    g.status ∈ recordedStatuses := by
  rw [status, ruleStatusOf, hactive]
  split
  · decide
  · obtain hnone | hmem := h
    · simp only [hnone, Bool.false_eq_true, if_false, if_true]
      decide
    · simp only [Bool.false_eq_true, if_false, (recordedStatuses_spec hmem).2.2.2.1]
      exact hmem

/-- The check of an inactive rule against `activated` passes only what the table allows. -/
theorem allowsActivation_of_ensure (h : g.Recorded) (hactive : g.active = false)
    (hensure : ensureTransitionAllowed overrides .rule (some g.status) "activated" = .ok ()) :
    AllowsActivation overrides g.status := by
  have hmem := RuleState.status_mem h hactive
  obtain ⟨-, -, -, hne, hnot⟩ := recordedStatuses_spec hmem
  have hstatus : canonicalizeStatusValue .rule (some g.status) = g.status :=
    canonicalizeStatusValue_recorded hmem
  have htarget : canonicalizeStatusValue .rule (some "activated") = "activated" :=
    canonicalizeStatusValue_eq_self (by decide) (by decide) (by decide)
  rw [ensureTransitionAllowed, hstatus, htarget] at hensure
  rw [if_neg (by rw [not_or]; exact ⟨hne, hnot⟩)] at hensure
  split at hensure
  · assumption
  · cases hensure

/-- A change that does not turn the flag on. -/
theorem Sanctioned.of_inactive (hrecorded : g'.Recorded)
    (hactive : g'.active = true → g.active = true) : Sanctioned overrides g g' where
  recorded := hrecorded
  allowed hoff hon := by
    rw [hactive hon] at hoff
    cases hoff

theorem Sanctioned.refl (h : g.Recorded) : Sanctioned overrides g g := .of_inactive h id

/-- A change after the check of the status table. -/
theorem Sanctioned.of_ensure (h : g.Recorded) (hrecorded : g'.Recorded) {toStatus : Text}
    (hensure : ensureTransitionAllowed overrides .rule (some g.status) toStatus = .ok ())
    (htarget : g.active = false → g'.active = true → toStatus = "activated") :
    Sanctioned overrides g g' where
  recorded := hrecorded
  allowed hoff hon := by
    rw [htarget hoff hon] at hensure
    exact allowsActivation_of_ensure h hoff hensure

theorem recorded_some {removed active : Bool} {status : Text} (h : status ∈ recordedStatuses) :
    RuleState.Recorded ⟨removed, active, some status⟩ := by
  right
  show normalizeRuleStatus (some status) ∈ recordedStatuses
  rw [normalizeRuleStatus, canonicalizeStatusValue_recorded h]
  exact h

theorem recorded_none {removed active : Bool} :
    RuleState.Recorded ⟨removed, active, none⟩ := by
  left
  show canonicalizeStatusValue .rule (some []) = []
  exact canonicalizeStatusValue_eq_self rfl (by decide) (by decide)

theorem WorkflowStatus.text_spec (status : WorkflowStatus) :
    status.text ∈ recordedStatuses ∧ normalizeRuleStatus (some status.text) = status.text := by
  have hmem : status.text ∈ recordedStatuses := by cases status <;> decide
  exact ⟨hmem, canonicalizeStatusValue_recorded hmem⟩

omit [PyRuntime] in
/-- An edit asks the table when it turns the flag on. -/
theorem desiredStatus_activated {fromStatus : Text} {wasActive active : Bool}
    (hoff : wasActive = false) (hon : active = true) :
    InMemory.desiredStatus fromStatus wasActive active = "activated" := by
  rw [hoff, hon]
  rfl

end Governed

/-! ### The in-memory repository -/

namespace InMemory

def StoredRule.state (r : StoredRule) : RuleState :=
  ⟨r.details.removedAt.isSome, r.entity.active, r.details.lastApprovalStatus⟩

variable [PyRuntime] {overrides : PolicyOverrides}

/-- Calls that add no rule make a run in any order. -/
theorem runs_of_calls {meets : Repository → Operation → Prop} {events : List Operation}
    (hnew : ∀ op ∈ events, op.newId? = none) (hmeets : ∀ repo, ∀ op ∈ events, meets repo op)
    (start : Repository) :
    Runs (Step overrides) meets start events (events.foldl (perform overrides) start) := by
  induction events generalizing start with
  | nil => exact .refl
  | cons op events ih =>
    have hstep : Step overrides start op (perform overrides start op) := by
      refine ⟨?_, rfl⟩
      intro ruleId hruleId
      rw [hnew op List.mem_cons_self] at hruleId
      cases hruleId
    refine .cons hstep (hmeets start op List.mem_cons_self) (ih ?_ ?_ _)
    · exact fun e he => hnew e (List.mem_cons_of_mem op he)
    · exact fun repo e he => hmeets repo e (List.mem_cons_of_mem op he)

end InMemory

/-! ### The tables -/

namespace Postgres

def StoredRows.state (rows : StoredRows) : RuleState :=
  ⟨rows.row.deletedOn.isSome, rows.row.active, rows.row.lastApprovalStatus⟩

def rollbackTarget? (toVersionId : Text) (rows : StoredRows) : Option RuleVersionRow :=
  if rows.row.deletedOn.isSome ∨ rows.currentVersionId.getD [] = toVersionId ∨
      rows.currentVersionId.getD [] = [] then none
  else rows.versions.find? fun version => version.id = toVersionId

variable [PyRuntime] [PyNumerals] {overrides : PolicyOverrides}

/-- Calls that add no rule make a run in any order. -/
theorem runs_of_calls {meets : Tables → Operation → Prop} {events : List Operation}
    (hnew : ∀ op ∈ events, op.newId? = none) (hmeets : ∀ tables, ∀ op ∈ events, meets tables op)
    (draws : Draws) (start : Tables) :
    Runs (Step overrides) meets start events (events.foldl (perform overrides draws) start) := by
  induction events generalizing start with
  | nil => exact .refl
  | cons op events ih =>
    have hstep : Step overrides start op (perform overrides draws start op) := by
      refine ⟨?_, draws, rfl⟩
      intro ruleId hruleId
      rw [hnew op List.mem_cons_self] at hruleId
      cases hruleId
    refine .cons hstep (hmeets start op List.mem_cons_self) (ih ?_ ?_ _)
    · exact fun e he => hnew e (List.mem_cons_of_mem op he)
    · exact fun tables e he => hmeets tables e (List.mem_cons_of_mem op he)

end Postgres

/-! ### A rule that is approved and edited -/

section Sample

local instance sampleRuntimeActivation : PyRuntime := .ascii (fun _ => .nan) (fun _ => [])

local instance sampleNumeralsActivation : PyNumerals := ⟨fun _ => none, fun _ => none, id⟩

/-- A check of a missing value, switched on or off. -/
def sampleFields (active : Bool) : RuleFields where
  name := "email present"
  description := none
  comments := none
  expression := "email IS NOT NULL"
  dimension := "Completeness"
  active := active
  dsl := none
  joinConditions := []
  aliasMappings := []
  reusableJoinId := none
  reusableFilterIds := []
  manualOverrideBy := none
  manualOverrideAt := none
  checkType := none
  checkTypeParams := none
  taxonomy := some [("owner", .scalar (.str "dana"))]

def sampleOrigin : Origin where
  workspace := "default"
  createdBy := "dana"
  generated := false
  isTemplate := false
  templateId := none
  suggestionId := none

def sampleCreation : Operation := .create "r" 1 sampleOrigin (sampleFields false)

/-- The way of a rule to its approval. -/
def sampleApproval : List Operation :=
  [.recordStatusTransition "r" 2 (some "draft") .pendingApproval none none,
   .recordStatusTransition "r" 3 (some "pending-approval") .approved none none]

/-- An approved rule is activated, edited while it is active, deactivated and edited again. -/
def sampleHistory : List Operation :=
  sampleApproval ++
    [.activate "r" 4, .update "r" 5 (sampleFields true), .deactivate "r" 6,
     .update "r" 7 (sampleFields false)]

def noOverrides : PolicyOverrides := fun _ => none

theorem admin_mem : "user-admin".toList ∈ [("user-admin" : Text)] := List.mem_cons_self

def sampleRepository (events : List Operation) : InMemory.Repository :=
  events.foldl (InMemory.perform noOverrides)
    (InMemory.perform noOverrides ⟨[], ["user-admin"], admin_mem⟩ sampleCreation)

theorem runs_sampleRepository {meets : InMemory.Repository → Operation → Prop}
    {events : List Operation} (hnew : ∀ op ∈ events, op.newId? = none)
    (hcreation : ∀ repo, meets repo sampleCreation) (hmeets : ∀ repo, ∀ op ∈ events, meets repo op) :
    Runs (InMemory.Step noOverrides) meets ⟨[], ["user-admin"], List.mem_cons_self⟩
      (sampleCreation :: events) (sampleRepository events) :=
  .cons ⟨fun _ _ => rfl, rfl⟩ (hcreation _) (InMemory.runs_of_calls hnew hmeets _)

def sampleTables (events : List Operation) : Postgres.Tables :=
  events.foldl (Postgres.perform noOverrides ⟨"v", "b"⟩)
    (Postgres.perform noOverrides ⟨"v", "b"⟩ [] sampleCreation)

theorem runs_sampleTables {meets : Postgres.Tables → Operation → Prop} {events : List Operation}
    (hnew : ∀ op ∈ events, op.newId? = none) (hcreation : ∀ tables, meets tables sampleCreation)
    (hmeets : ∀ tables, ∀ op ∈ events, meets tables op) :
    Runs (Postgres.Step noOverrides) meets [] (sampleCreation :: events) (sampleTables events) :=
  .cons ⟨fun _ _ => rfl, _, rfl⟩ (hcreation _) (Postgres.runs_of_calls hnew hmeets _ _)

end Sample

end Lifecycle

end DqMadeEasy
