import DqMadeEasy.Lifecycle.Governed

/-!
# Retirement

`retired` is a terminal status of the lifecycle model, and an active rule cannot be retired. The
status itself is as final as its table. The active flag is not: the methods that write it ask the
approval status alone, and a rollback asks nothing. So a retired rule stays inactive where no call
finds it in a state from which its flag can be turned on.
-/

namespace DqMadeEasy

namespace Lifecycle

open Transition

section Laws

variable [PyRuntime]

def ruleLifecycleStatusValues : List Text :=
  ["active", "deprecated", "superseded", "retired"].map String.toList

/-- The lifecycle status that a rule is shown with is `retired`. -/
def Governed.Retired (g : Governed) : Prop := g.shownLifecycleStatus = "retired"

instance (g : Governed) : Decidable g.Retired := inferInstanceAs (Decidable (_ = _))

/-- The table in force has no way out of `retired`. -/
def RetiredTerminal (overrides : PolicyOverrides) : Prop :=
  ∀ target ∈ ruleLifecycleStatusValues, target ≠ "retired" →
    isTransitionDefined overrides .ruleLifecycle "retired" target = false

/-- A call turns no flag of a retired rule on: the status table refuses to let the rule become
active, a rollback restores a version that is not active, and no recovery takes back a rule that
counts as retired only for being removed. The statuses asked for are those of the model, as in the
use case. -/
def LeavesRetired (overrides : PolicyOverrides) (restored : Option Restored) (g : Governed) :
    Operation → Prop
  | .update _ _ fields => g.Retired → fields.active = true →
      ensureTransitionAllowed overrides .rule (some g.status) "activated" ≠ .ok ()
  | .activate _ _ => g.Retired →
      ensureRuleTransitionAllowed overrides (some g.status) "activated" ≠ .ok ()
  | .recover _ _ _ => g.Retired → canonicalizeStatusValue .ruleLifecycle g.lifecycleStatus ≠ []
  | .setLifecycleStatus _ _ lifecycleStatus _ _ =>
      canonicalizeStatusValue .ruleLifecycle (some lifecycleStatus) ∈ ruleLifecycleStatusValues
  | .rollback _ _ _ _ _ _ _ => g.Retired → ∀ version ∈ restored, version.active = false
  | _ => True

def Governed.Settled (g : Governed) : Prop := g.Retired → g.active = false

variable {overrides : PolicyOverrides} {restored : Option Restored} {op : Operation}
  {g g' : Governed}

theorem canonicalizeStatusValue_lifecycle {status : Text}
    (h : status ∈ ruleLifecycleStatusValues) :
    canonicalizeStatusValue .ruleLifecycle (some status) = status := by
  apply normalizeStatusValue_eq_self
  revert status
  decide

theorem shownLifecycleStatus_lifecycle (removed : Bool) {status : Text}
    (h : status ∈ ruleLifecycleStatusValues) :
    deriveRuleLifecycleStatus removed (some status) = status := by
  have hne : status ≠ [] := by
    revert status
    decide
  rw [deriveRuleLifecycleStatus, canonicalizeStatusValue_lifecycle h]
  exact if_pos hne

theorem shownLifecycleStatus_removed {removed : Bool} {lifecycleStatus : Option Text}
    (h : deriveRuleLifecycleStatus removed lifecycleStatus = "retired") :
    deriveRuleLifecycleStatus true lifecycleStatus = "retired" := by
  rw [deriveRuleLifecycleStatus] at h ⊢
  split at h
  · rename_i hne
    rw [if_pos hne]
    exact h
  · rename_i hblank
    rw [if_neg hblank]
    rfl

theorem shownLifecycleStatus_recovered {removed : Bool} {lifecycleStatus : Option Text}
    (hne : canonicalizeStatusValue .ruleLifecycle lifecycleStatus ≠ []) :
    deriveRuleLifecycleStatus removed lifecycleStatus =
      canonicalizeStatusValue .ruleLifecycle lifecycleStatus := by
  rw [deriveRuleLifecycleStatus]
  exact if_pos hne

/-- The check of a move out of `retired` passes only what the table allows. -/
theorem retired_of_ensure (hterminal : RetiredTerminal overrides) {target : Text}
    (htarget : target ∈ ruleLifecycleStatusValues)
    (hensure : ensureRuleLifecycleTransitionAllowed overrides (some "retired") target =
      .ok ()) : target = "retired" := by
  by_contra hne
  rw [ensureRuleLifecycleTransitionAllowed, ensureTransitionAllowed,
    canonicalizeStatusValue_retired, canonicalizeStatusValue_lifecycle htarget,
    if_neg (by rw [not_or]; exact ⟨(by cases ·), Ne.symm hne⟩),
    if_neg (by rw [hterminal target htarget hne]; decide)] at hensure
  cases hensure

/-- A move keeps a retired rule retired, and retires none that is active. -/
theorem Move.retirement (hterminal : RetiredTerminal overrides)
    (h : Move overrides restored op g g') (hleaves : LeavesRetired overrides restored g op)
    (hsettled : g.Settled) : g'.Settled ∧ (g.Retired → g'.Retired) := by
  cases h with
  | same => exact ⟨hsettled, id⟩
  | update ruleId now fields definition _ hensure =>
    refine ⟨?_, id⟩
    intro hretired
    refine Bool.eq_false_iff.mpr fun hon => hleaves hretired hon ?_
    rw [← hensure, desiredStatus_activated (hsettled hretired) hon]
  | activate ruleId now _ hensure => exact ⟨fun hretired => absurd hensure (hleaves hretired), id⟩
  | deactivate => exact ⟨fun _ => rfl, id⟩
  | softDelete _ _ _ _ hinactive => exact ⟨fun _ => hinactive, shownLifecycleStatus_removed⟩
  | recover =>
    refine ⟨fun _ => rfl, ?_⟩
    intro hretired
    have hne := hleaves hretired
    have hshown : canonicalizeStatusValue .ruleLifecycle g.lifecycleStatus = "retired" :=
      (shownLifecycleStatus_recovered hne).symm.trans hretired
    exact (shownLifecycleStatus_recovered hne).trans hshown
  | setLifecycleStatus _ _ lifecycleStatus _ _ _ _ hactive hexit =>
    have hshown := shownLifecycleStatus_lifecycle g.removed hleaves
    constructor
    · intro hretired
      exact hactive (hshown.symm.trans hretired)
    · intro hretired
      exact hshown.trans (retired_of_ensure hterminal hleaves (hexit hretired))
  | rollback _ _ _ _ _ _ _ _ version hrestored =>
    exact ⟨fun hretired => hleaves hretired version hrestored, id⟩
  | recordStatusTransition => exact ⟨hsettled, id⟩

theorem Newborn.settled (h : Newborn op g) : g.Settled := by
  intro hretired
  cases h with
  | create =>
    have hshown : deriveRuleLifecycleStatus false (some "active") = "active" :=
      shownLifecycleStatus_lifecycle false (by decide)
    exact absurd (hshown.symm.trans hretired) (by decide)
  | template => rfl

/-! ### Runs -/

namespace RuleStore

variable (store : RuleStore overrides)

/-- No rule is retired and active. -/
def Settled (s : store.State) : Prop :=
  ∀ ruleId g, store.governed? s ruleId = some g → g.Settled

def SparesRetired (s : store.State) (op : Operation) : Prop :=
  ∀ g ∈ store.governed? s op.ruleId, LeavesRetired overrides (store.restored? s op) g op

/-- A rule that is retired at some point of a run stays retired, and is never active again. -/
def RetirementFinal (meets : store.State → Operation → Prop) : Prop :=
  ∀ (start s s' : store.State) (before after : List Operation) (ruleId : Text) (g : Governed),
    store.Settled start → Runs store.Step meets start before s → Runs store.Step meets s after s' →
    store.governed? s ruleId = some g → g.Retired →
    ∃ g', store.governed? s' ruleId = some g' ∧ g'.Retired ∧ g'.active = false

variable {store} {s s' : store.State} {events : List Operation} {ruleId : Text}

theorem step_settled (hterminal : RetiredTerminal overrides) (h : store.Settled s)
    (hstep : store.Step s op s') (hspares : store.SparesRetired s op) : store.Settled s' := by
  intro ruleId g' hg'
  obtain ⟨-, hborn⟩ | ⟨g, hg, rfl | ⟨hid, hmove⟩⟩ := store.moves hstep hg'
  · exact hborn.settled
  · exact h ruleId g' hg
  · subst hid
    exact (hmove.retirement hterminal (hspares g hg) (h _ g hg)).1

theorem step_retired (hterminal : RetiredTerminal overrides) (h : store.Settled s)
    (hstep : store.Step s op s') (hspares : store.SparesRetired s op)
    (hg : store.governed? s ruleId = some g) (hretired : g.Retired) :
    ∃ g', store.governed? s' ruleId = some g' ∧ g'.Retired := by
  obtain ⟨g', hg', rfl | ⟨hid, hmove⟩⟩ := store.moved hstep hg
  · exact ⟨g', hg', hretired⟩
  · subst hid
    exact ⟨g', hg', (hmove.retirement hterminal (hspares g hg) (h _ g hg)).2 hretired⟩

theorem runs_settled (hterminal : RetiredTerminal overrides) (h : store.Settled s)
    (hruns : Runs store.Step store.SparesRetired s events s') : store.Settled s' :=
  hruns.invariant h fun _ _ _ hs hstep hspares => step_settled hterminal hs hstep hspares

theorem retirementFinal (hterminal : RetiredTerminal overrides) :
    store.RetirementFinal store.SparesRetired := by
  intro start s s' before after ruleId g hstart hbefore hafter hg hretired
  have hs : store.Settled s := runs_settled hterminal hstart hbefore
  obtain ⟨hs', g', hg', hretired'⟩ : store.Settled s' ∧
      ∃ g', store.governed? s' ruleId = some g' ∧ g'.Retired := by
    refine hafter.invariant (I := fun t => store.Settled t ∧
      ∃ g', store.governed? t ruleId = some g' ∧ g'.Retired) ⟨hs, g, hg, hretired⟩ ?_
    rintro t op t' ⟨ht, q, hq, hqretired⟩ hstep hspares
    exact ⟨step_settled hterminal ht hstep hspares,
      step_retired hterminal ht hstep hspares hq hqretired⟩
  exact ⟨g', hg', hretired', hs' ruleId g' hg' hretired'⟩

end RuleStore

end Laws

/-- In both repositories retirement is final over every run that turns no flag of a retired rule
on. -/
theorem retirement_final [PyRuntime] [PyNumerals] (overrides : PolicyOverrides)
    (hterminal : RetiredTerminal overrides) :
    (InMemory.ruleStore overrides).RetirementFinal (InMemory.ruleStore overrides).SparesRetired ∧
      (Postgres.ruleStore overrides).RetirementFinal
        (Postgres.ruleStore overrides).SparesRetired :=
  ⟨RuleStore.retirementFinal hterminal, RuleStore.retirementFinal hterminal⟩

/-- Without overrides the table has no way out of `retired`. -/
theorem retiredTerminal_noOverrides [PyRuntime] : RetiredTerminal noOverrides := by
  intro target htarget hne
  have hrow : ∀ t ∈ ruleLifecycleStatusTransitions,
      t.fromStatus ∈ ruleLifecycleStatusValues ∧ t.fromStatus ≠ "retired" := by
    decide
  rw [isTransitionDefined, List.any_eq_false]
  intro t ht
  obtain ⟨hvalue, hfrom⟩ := hrow t ht
  rw [canonicalizeStatusValue_lifecycle hvalue, canonicalizeStatusValue_retired,
    decide_eq_false hfrom]
  nofun

/-! ### A retired rule -/

section Sample

local instance sampleRuntimeRetirement : PyRuntime := sampleRuntimeActivation

local instance sampleNumeralsRetirement : PyNumerals := sampleNumeralsActivation

def sampleRetire : Operation := .setLifecycleStatus "r" 2 "retired" none none

/-- The retired rule is submitted and edited. -/
def sampleEdits : List Operation :=
  [.recordStatusTransition "r" 3 (some "draft") .pendingApproval none none,
   .update "r" 4 (sampleFields false)]

theorem sampleRetire_retires :
    ∃ g, (InMemory.ruleStore noOverrides).governed? (sampleRepository [sampleRetire]) "r" =
      some g ∧ g.Retired := by
  have hretired : ((InMemory.ruleStore noOverrides).governed? (sampleRepository [sampleRetire])
      "r").map (fun g => decide g.Retired) = some true := by
    decide +kernel
  obtain ⟨g, hg, hdecide⟩ := Option.map_eq_some_iff.mp hretired
  exact ⟨g, hg, of_decide_eq_true hdecide⟩

theorem runs_sampleRetired {meets : InMemory.Repository → Operation → Prop}
    {events : List Operation} (hnew : ∀ op ∈ events, op.newId? = none)
    (hmeets : ∀ repo, ∀ op ∈ events, meets repo op) :
    Runs (InMemory.Step noOverrides) meets (sampleRepository [sampleRetire]) events
      (events.foldl (InMemory.perform noOverrides) (sampleRepository [sampleRetire])) :=
  InMemory.runs_of_calls hnew hmeets _

theorem settled_empty : (InMemory.ruleStore noOverrides).Settled
    (⟨[], ["user-admin"], List.mem_cons_self⟩ : InMemory.Repository) := by
  intro ruleId g hg
  cases hg

/-- A submission and an edit leave a retired rule retired. -/
theorem retirement_final_of_edits :
    ∃ g, (InMemory.ruleStore noOverrides).governed? (sampleEdits.foldl
      (InMemory.perform noOverrides) (sampleRepository [sampleRetire])) "r" = some g ∧
      g.Retired ∧ g.active = false := by
  obtain ⟨g, hg, hretired⟩ := sampleRetire_retires
  have hbefore : ∀ repo, ∀ op ∈ [sampleRetire],
      (InMemory.ruleStore noOverrides).SparesRetired repo op := by
    intro repo op hop g _
    rw [List.mem_singleton.mp hop]
    show canonicalizeStatusValue .ruleLifecycle (some "retired") ∈ ruleLifecycleStatusValues
    decide +kernel
  have hafter : ∀ repo, ∀ op ∈ sampleEdits,
      (InMemory.ruleStore noOverrides).SparesRetired repo op := by
    intro repo op hop g _
    rcases List.mem_pair.mp hop with rfl | rfl
    · trivial
    · exact fun _ hactive => absurd hactive (by decide)
  exact (retirement_final noOverrides retiredTerminal_noOverrides).1 _ _ _ _ _ "r" g
    settled_empty (runs_sampleRepository (by decide) (fun _ _ _ => trivial) hbefore)
    (runs_sampleRetired (by decide) hafter) hg hretired

/-- A retired rule is submitted, approved and activated. -/
theorem retired_activates :
    ¬ ∀ (overrides : PolicyOverrides), RetiredTerminal overrides →
      (InMemory.ruleStore overrides).RetirementFinal fun _ _ => True := by
  intro h
  obtain ⟨g, hg, hretired⟩ := sampleRetire_retires
  let events : List Operation := sampleApproval ++ [.activate "r" 4]
  obtain ⟨g', hg', -, hoff⟩ := h noOverrides retiredTerminal_noOverrides _ _ _ _ events "r" g
    settled_empty (runs_sampleRepository (by decide) (fun _ => trivial) (fun _ _ _ => trivial))
    (runs_sampleRetired (by decide) (fun _ _ _ => trivial)) hg hretired
  have hactive : ((InMemory.ruleStore noOverrides).governed? (events.foldl
      (InMemory.perform noOverrides) (sampleRepository [sampleRetire])) "r").map
        (fun g => g.active) = some true := by
    decide +kernel
  have hon : some true = some g'.active :=
    hactive.symm.trans (congrArg (Option.map fun g => g.active) hg')
  rw [hoff] at hon
  cases hon

end Sample

end Lifecycle

end DqMadeEasy
