import DqMadeEasy.Lifecycle.Governed

/-!
# How rules become active

Every method that writes the active flag asks the status table, with one exception in both
repositories: a rollback writes the flag of the version it restores. A move is sanctioned when it
turns no flag on but from a status that the table lets move to `activated`.
-/

namespace DqMadeEasy

namespace Lifecycle

open Transition

/-! ### Moves -/

section Moves

variable [PyRuntime] {overrides : PolicyOverrides} {restored : Option Restored} {op : Operation}
  {g g' : Governed}

/-- A move is sanctioned if a rollback turns the flag on only where the table allows it. -/
theorem Move.sanctioned (h : Move overrides restored op g g') (hrecorded : g.Recorded)
    (hlicensed : ∀ version ∈ restored, g.active = false → version.active = true →
      AllowsActivation overrides g.status) :
    Sanctioned overrides g.toRuleState g'.toRuleState := by
  cases h with
  | same => exact .refl hrecorded
  | update _ _ _ _ _ hensure =>
    refine .of_ensure hrecorded ?_ hensure desiredStatus_activated
    show RuleState.Recorded ⟨_, _, if g.status = "deactivated" then some "draft"
      else g.lastApprovalStatus⟩
    split
    · exact recorded_some (by decide)
    · exact hrecorded
  | activate _ _ _ hensure =>
    exact .of_ensure hrecorded (recorded_some (by decide)) hensure fun _ _ => rfl
  | deactivate => exact .of_inactive (recorded_some (by decide)) nofun
  | softDelete => exact .of_inactive (recorded_some (by decide)) id
  | recover => exact .of_inactive (recorded_some (by decide)) nofun
  | setLifecycleStatus => exact .of_inactive hrecorded id
  | rollback _ _ _ _ _ _ _ _ version hversion =>
    exact ⟨hrecorded, hlicensed version hversion⟩
  | recordStatusTransition _ _ _ toStatus =>
    exact .of_inactive (recorded_some toStatus.text_spec.1) id

variable (store : RuleStore overrides)

namespace RuleStore

/-- The recorded statuses of all rules amount to ones that the methods record. -/
def Recorded (s : store.State) : Prop :=
  ∀ ruleId, ∀ g ∈ store.governed? s ruleId, g.Recorded

/-- A rollback turns the flag of its rule on only where the table allows it. -/
def Licensed (s : store.State) (op : Operation) : Prop :=
  ∀ g ∈ store.governed? s op.ruleId, ∀ version ∈ store.restored? s op,
    g.active = false → version.active = true → AllowsActivation overrides g.status

variable {store} {s s' : store.State}

theorem recorded_step (hrecorded : store.Recorded s) (hstep : store.Step s op s')
    (hlicensed : store.Licensed s op) : store.Recorded s' := by
  intro ruleId g' hg'
  obtain ⟨-, hborn⟩ | ⟨g, hg, rfl | ⟨rfl, hmove⟩⟩ := store.moves hstep hg'
  · exact hborn.recorded
  · exact hrecorded ruleId g' hg
  · exact (hmove.sanctioned (hrecorded _ g hg) (hlicensed g hg)).recorded

theorem allowed_step {ruleId : Text} (hrecorded : store.Recorded s) (hstep : store.Step s op s')
    (hlicensed : store.Licensed s op) (hg : store.governed? s ruleId = some g)
    (hg' : store.governed? s' ruleId = some g') (hoff : g.active = false)
    (hon : g'.active = true) : AllowsActivation overrides g.status := by
  obtain ⟨_, hfound, hmoved⟩ := store.moved hstep hg
  rw [hg', Option.some_inj] at hfound
  subst hfound
  obtain rfl | ⟨rfl, hmove⟩ := hmoved
  · rw [hoff] at hon
    cases hon
  · exact (hmove.sanctioned (hrecorded _ g hg) (hlicensed g hg)).allowed hoff hon

end RuleStore

end Moves

/-! ### The in-memory repository -/

namespace InMemory

variable [PyRuntime]

/-- The recorded statuses of all rules amount to ones that the methods record. -/
def Recorded (repo : Repository) : Prop :=
  ∀ ruleId r, repo.find? ruleId = some r → (StoredRule.state r).Recorded

/-- A rollback that turns the flag of its rule on does so from a status that the table lets move to
`activated`. -/
def Licensed (overrides : PolicyOverrides) (repo : Repository) : Operation → Prop
  | .rollback ruleId _ toVersionId _ _ _ _ => ∀ r snapshot, repo.find? ruleId = some r →
      rollbackTarget? ruleId toVersionId r = some snapshot → r.entity.active = false →
      snapshot.active = true → AllowsActivation overrides r.currentStatus
  | _ => True

/-- Whatever rules become active in a step, the table allows it. -/
def ActivationsAllowed (overrides : PolicyOverrides) (repo repo' : Repository) : Prop :=
  ∀ ruleId r r', repo.find? ruleId = some r → repo'.find? ruleId = some r' →
    r.entity.active = false → r'.entity.active = true → AllowsActivation overrides r.currentStatus

variable {overrides : PolicyOverrides} {repo : Repository} {op : Operation}

theorem licensed_ruleStore (h : Licensed overrides repo op) :
    (ruleStore overrides).Licensed repo op := by
  intro g hg version hversion
  obtain ⟨r, hr, rfl⟩ := Option.map_eq_some_iff.mp hg
  cases op with
  | rollback ruleId now toVersionId =>
    obtain ⟨snapshot, hsnapshot, rfl⟩ := Option.map_eq_some_iff.mp hversion
    have hfind : repo.find? ruleId = some r := hr
    rw [hfind, Option.bind_some] at hsnapshot
    exact h r snapshot hfind hsnapshot
  | _ => cases hversion

theorem recorded_of_runs {start : Repository} {events : List Operation} (hstart : Recorded start)
    (hruns : Runs (Step overrides) (Licensed overrides) start events repo) :
    (ruleStore overrides).Recorded repo := by
  refine hruns.invariant ?_ fun s op s' hrecorded hstep hlicensed =>
    RuleStore.recorded_step hrecorded hstep (licensed_ruleStore hlicensed)
  intro ruleId g hg
  obtain ⟨r, hr, rfl⟩ := Option.map_eq_some_iff.mp hg
  exact hstart ruleId r hr

end InMemory

/-! ### The tables -/

namespace Postgres

variable [PyRuntime]

/-- The recorded statuses of all rules amount to ones that the methods record. -/
def Recorded (tables : Tables) : Prop :=
  ∀ ruleId rows, tables.find? ruleId = some rows → (StoredRows.state rows).Recorded

/-- A rollback that turns the flag of its rule on does so from a status that the table lets move to
`activated`. -/
def Licensed (overrides : PolicyOverrides) (tables : Tables) : Operation → Prop
  | .rollback ruleId _ toVersionId _ _ _ _ => ∀ rows target, tables.find? ruleId = some rows →
      rollbackTarget? toVersionId rows = some target → rows.row.active = false →
      target.active = true → AllowsActivation overrides rows.row.deriveRuleStatus
  | _ => True

/-- Whatever rules become active in a step, the table allows it. -/
def ActivationsAllowed (overrides : PolicyOverrides) (tables tables' : Tables) : Prop :=
  ∀ ruleId rows rows', tables.find? ruleId = some rows → tables'.find? ruleId = some rows' →
    rows.row.active = false → rows'.row.active = true →
    AllowsActivation overrides rows.row.deriveRuleStatus

variable [PyNumerals] {overrides : PolicyOverrides} {tables : Tables} {op : Operation}

theorem licensed_ruleStore (h : Licensed overrides tables op) :
    (ruleStore overrides).Licensed tables op := by
  intro g hg version hversion
  obtain ⟨rows, hrows, rfl⟩ := Option.map_eq_some_iff.mp hg
  cases op with
  | rollback ruleId now toVersionId =>
    obtain ⟨target, htarget, rfl⟩ := Option.map_eq_some_iff.mp hversion
    have hfind : tables.find? ruleId = some rows := hrows
    rw [hfind, Option.bind_some] at htarget
    exact h rows target hfind htarget
  | _ => cases hversion

theorem recorded_of_runs {start : Tables} {events : List Operation} (hstart : Recorded start)
    (hruns : Runs (Step overrides) (Licensed overrides) start events tables) :
    (ruleStore overrides).Recorded tables := by
  refine hruns.invariant ?_ fun s op s' hrecorded hstep hlicensed =>
    RuleStore.recorded_step hrecorded hstep (licensed_ruleStore hlicensed)
  intro ruleId g hg
  obtain ⟨rows, hrows, rfl⟩ := Option.map_eq_some_iff.mp hg
  exact hstart ruleId rows hrows

end Postgres

/-! ### Both repositories -/

/-- In a run whose rollbacks turn a flag on only where the status table lets the rule become
active, no rule becomes active but from a status of which the table says so. -/
theorem activations_allowed [PyRuntime] [PyNumerals] (overrides : PolicyOverrides) :
    (∀ (start repo repo' : InMemory.Repository) (events : List Operation) (op : Operation),
      InMemory.Recorded start →
      Runs (InMemory.Step overrides) (InMemory.Licensed overrides) start events repo →
      InMemory.Step overrides repo op repo' → InMemory.Licensed overrides repo op →
      InMemory.ActivationsAllowed overrides repo repo') ∧
    ∀ (start tables tables' : Postgres.Tables) (events : List Operation) (op : Operation),
      Postgres.Recorded start →
      Runs (Postgres.Step overrides) (Postgres.Licensed overrides) start events tables →
      Postgres.Step overrides tables op tables' → Postgres.Licensed overrides tables op →
      Postgres.ActivationsAllowed overrides tables tables' := by
  constructor
  · intro start repo repo' events op hstart hruns hstep hlicensed ruleId r r' hr hr'
    exact RuleStore.allowed_step (InMemory.recorded_of_runs hstart hruns) hstep
      (InMemory.licensed_ruleStore hlicensed) (Option.map_eq_some_iff.mpr ⟨r, hr, rfl⟩)
      (Option.map_eq_some_iff.mpr ⟨r', hr', rfl⟩)
  · intro start tables tables' events op hstart hruns hstep hlicensed ruleId rows rows' hrows hrows'
    exact RuleStore.allowed_step (Postgres.recorded_of_runs hstart hruns) hstep
      (Postgres.licensed_ruleStore hlicensed) (Option.map_eq_some_iff.mpr ⟨rows, hrows, rfl⟩)
      (Option.map_eq_some_iff.mpr ⟨rows', hrows', rfl⟩)

/-! ### A rule that was approved once -/

section Sample

attribute [local instance] sampleRuntimeActivation sampleNumeralsActivation

/-- The status table lets an approved rule become active, in both repositories. -/
theorem activations_allowed_of_approved :
    InMemory.ActivationsAllowed noOverrides (sampleRepository sampleApproval)
      (InMemory.perform noOverrides (sampleRepository sampleApproval) (.activate "r" 4)) ∧
    Postgres.ActivationsAllowed noOverrides (sampleTables sampleApproval)
      (Postgres.perform noOverrides ⟨"v", "b"⟩ (sampleTables sampleApproval)
        (.activate "r" 4)) := by
  have hlicensed : ∀ repo, ∀ op ∈ sampleApproval, InMemory.Licensed noOverrides repo op := by
    intro repo op hop
    rcases List.mem_pair.mp hop with rfl | rfl
    · trivial
    · trivial
  have hlicensed' : ∀ tables, ∀ op ∈ sampleApproval, Postgres.Licensed noOverrides tables op := by
    intro tables op hop
    rcases List.mem_pair.mp hop with rfl | rfl
    · trivial
    · trivial
  constructor
  · refine (activations_allowed noOverrides).1 _ _ _ _ (.activate "r" 4) ?_
      (runs_sampleRepository (by decide) (fun _ => trivial) hlicensed) ⟨?_, rfl⟩ trivial
    · intro ruleId r hr
      cases hr
    · intro ruleId hruleId
      cases hruleId
  · refine (activations_allowed noOverrides).2 _ _ _ _ (.activate "r" 4) ?_
      (runs_sampleTables (by decide) (fun _ => trivial) hlicensed') ⟨?_, _, rfl⟩ trivial
    · intro ruleId rows hrows
      cases hrows
    · intro ruleId hruleId
      cases hruleId

/-- From a draft, a rollback turns the flag on: it restores a version of the time when the rule was
active. -/
theorem rollback_activates_draft :
    ¬ ∀ (overrides : PolicyOverrides) (start repo repo' : InMemory.Repository)
      (events : List Operation) (op : Operation), InMemory.Recorded start →
      Runs (InMemory.Step overrides) (fun _ _ => True) start events repo →
      InMemory.Step overrides repo op repo' → InMemory.ActivationsAllowed overrides repo repo' := by
  intro h
  have hruns : Runs (InMemory.Step noOverrides) (fun _ _ => True)
      ⟨[], ["user-admin".toList], List.mem_cons_self⟩ (sampleCreation :: sampleHistory)
      (sampleRepository sampleHistory) :=
    runs_sampleRepository (by decide) (fun _ => trivial) (fun _ _ _ => trivial)
  have hrecorded : InMemory.Recorded ⟨[], ["user-admin".toList], List.mem_cons_self⟩ := by
    intro ruleId r hr
    cases hr
  let rollback : Operation :=
    .rollback "r".toList 8 "rv-002".toList "as it was".toList none false none
  have hstep : InMemory.Step noOverrides (sampleRepository sampleHistory) rollback
      (InMemory.perform noOverrides (sampleRepository sampleHistory) rollback) := by
    refine ⟨?_, rfl⟩
    intro ruleId hruleId
    cases hruleId
  have hallowed := h noOverrides _ _ _ _ rollback hrecorded hruns hstep
  have hbefore : ((sampleRepository sampleHistory).find? "r".toList).map
      (fun r => (r.entity.active, r.currentStatus)) = some (false, "draft".toList) := by
    decide +kernel
  have hafter : ((InMemory.perform noOverrides (sampleRepository sampleHistory) rollback).find?
      "r".toList).map (fun r => r.entity.active) = some true := by
    decide +kernel
  obtain ⟨r, hr, hstate⟩ := Option.map_eq_some_iff.mp hbefore
  obtain ⟨r', hr', hon⟩ := Option.map_eq_some_iff.mp hafter
  obtain ⟨hoff, hstatus⟩ := Prod.mk.inj hstate
  have hdraft := hallowed "r".toList r r' hr hr' hoff hon
  rw [hstatus] at hdraft
  exact absurd hdraft (by decide +kernel)

end Sample

end Lifecycle

end DqMadeEasy
