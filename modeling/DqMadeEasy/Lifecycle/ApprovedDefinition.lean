import DqMadeEasy.Lifecycle.Governed

/-!
# What runs is what was approved

An approval is for the definition that a rule has at that moment. The use case that edits a rule
refuses when the rule is approved or active, so no edit comes between an approval and the activation
of the rule. A rollback asks for neither: it restores the expression, the check and the DSL of
another version under the approval of this one.
-/

namespace DqMadeEasy

namespace Text

theorem mem_replace {a b : Char} {t : Text} (h : a ∈ t) : b ∈ replace [a] [b] t := by
  induction t with
  | nil => cases h
  | cons c cs ih =>
    by_cases hc : a = c
    · have hprefix : List.isPrefixOf [a] (c :: cs) = true := by
        simp [List.isPrefixOf, hc]
      rw [replace, replaceFrom, if_pos hprefix]
      exact List.mem_cons_self
    · have hprefix : ¬List.isPrefixOf [a] (c :: cs) = true := by
        simp [List.isPrefixOf, hc]
      have hrest : a ∈ cs := (List.mem_cons.mp h).resolve_left hc
      rw [replace, replaceFrom, if_neg hprefix]
      exact List.mem_cons_of_mem c (ih hrest)

end Text

namespace Lifecycle

open Transition

section Laws

variable [PyRuntime]

/-- The recorded status is `approved`. -/
def RuleState.Approved (g : RuleState) : Prop :=
  normalizeRuleStatus g.lastApprovalStatus = "approved"

/-- What `update_rule` asks of the row of a rule. The listing leaves removed rules out. -/
def RuleState.Editable (g : RuleState) : Prop :=
  g.removed = false ∧
    ¬(PyRuntime.lower (Text.strip (g.lastApprovalStatus.getD [])) = "approved" ∨
      g.active = true)

instance (g : RuleState) : Decidable g.Editable := inferInstanceAs (Decidable (_ ∧ ¬(_ ∨ _)))

/-- The table in force lets only approved rules become active. -/
def ActivatesApproved (overrides : PolicyOverrides) : Prop :=
  ∀ status ∈ recordedStatuses, AllowsActivation overrides status → status = "approved"

variable {overrides : PolicyOverrides} {restored : Option Restored} {op : Operation}
  {g g' : Governed} {approved : Option Definition}

theorem RuleState.Approved.normalized {g : RuleState} (h : g.Approved) :
    normalizeStatusValue g.lastApprovalStatus = "approved" := by
  rw [Approved, normalizeRuleStatus, canonicalizeStatusValue] at h
  split at h
  · cases h
  · split at h
    · cases h
    · exact h

/-- The text that the use case compares is the normal form, as this has no hyphen. -/
theorem RuleState.Editable.not_approved {g : RuleState} (h : g.Editable) : ¬g.Approved := by
  intro happroved
  have hreplaced : Text.replace ['_'] ['-']
      (PyRuntime.lower (Text.strip (g.lastApprovalStatus.getD []))) = "approved" :=
    happroved.normalized
  refine h.2 (.inl ?_)
  rw [← hreplaced]
  symm
  apply Text.replace_eq_self
  intro hmem
  have hhyphen : '-' ∈ Text.replace ['_'] ['-'] _ := Text.mem_replace hmem
  rw [hreplaced] at hhyphen
  exact absurd hhyphen (by decide)

theorem not_approved_of_recorded {g : RuleState} {status : Text} (hmem : status ∈ recordedStatuses)
    (hlast : g.lastApprovalStatus = some status) (hne : status ≠ "approved") :
    ¬g.Approved := by
  intro happroved
  apply hne
  rw [RuleState.Approved, hlast, normalizeRuleStatus, canonicalizeStatusValue_recorded hmem]
    at happroved
  exact happroved

theorem RuleState.approved_of_status {g : RuleState} (hactive : g.active = false)
    (hstatus : g.status = "approved") : g.Approved := by
  rw [status, ruleStatusOf, hactive] at hstatus
  split at hstatus
  · cases hstatus
  · dsimp only at hstatus
    split at hstatus
    · contradiction
    · split at hstatus
      · cases hstatus
      · exact hstatus

/-- A rule that is active or approved has the definition that was approved last. -/
structure Vetted (approved : Option Definition) (g : Governed) : Prop where
  recorded : g.Recorded
  definition : g.active = true ∨ g.Approved → approved = some g.definition

/-- An inactive rule with another recorded status than `approved` may have any definition. -/
theorem Vetted.of_unapproved {status : Text} (hinactive : g.active = false)
    (hlast : g.lastApprovalStatus = some status) (hmem : status ∈ recordedStatuses)
    (hne : status ≠ "approved") : Vetted approved g where
  recorded := by
    rw [RuleState.Recorded, hlast]
    have hrecorded : RuleState.Recorded ⟨g.removed, g.active, some status⟩ := recorded_some hmem
    exact hrecorded
  definition := by
    rintro (hon | happroved)
    · rw [hinactive] at hon
      cases hon
    · exact absurd happroved (not_approved_of_recorded hmem hlast hne)

/-- A call keeps definitions vetted: no rule is created active, and a rollback that leaves its rule
active or approved restores what was approved last. -/
def KeepsVetted (restored : Option Restored) (approved : Option Definition) (g : Governed) : Prop :=
  ∀ version ∈ restored, version.active = true ∨ g.Approved →
    approved = some ⟨version.versioned, g.definition.unversioned⟩

/-- The check of the status table lets a rule become active only from `approved`. -/
theorem approved_of_ensure (htable : ActivatesApproved overrides) (hrecorded : g.Recorded)
    (hinactive : g.active = false)
    (hensure : ensureTransitionAllowed overrides .rule (some g.status) "activated" = .ok ()) :
    g.Approved := by
  have hallows := allowsActivation_of_ensure hrecorded hinactive hensure
  exact RuleState.approved_of_status hinactive
    (htable g.status (RuleState.status_mem hrecorded hinactive) hallows)

/-- An accepted move keeps the definition of its rule vetted, where an approval is for the
definition of that moment. -/
theorem Move.vetted (htable : ActivatesApproved overrides)
    (h : Move overrides restored op g g') (hvetted : Vetted approved g)
    (hedit : ∀ ruleId now fields, op = .update ruleId now fields → g.Editable)
    (hkeeps : ∀ ruleId now toVersionId reason requestedByUserId skipApproval tags,
      op = .rollback ruleId now toVersionId reason requestedByUserId skipApproval tags →
      KeepsVetted restored approved g)
    (happroval : ∀ ruleId now fromStatus changedBy reason,
      op = .recordStatusTransition ruleId now fromStatus .approved changedBy reason →
      ensureTransitionAllowed overrides .rule fromStatus WorkflowStatus.approved.text = .ok () →
      approved = some g.definition) : Vetted approved g' := by
  have hrecorded := hvetted.recorded
  cases h with
  | same => exact hvetted
  | update ruleId now fields definition _ hensure =>
    have heditable := hedit ruleId now fields rfl
    have hinactive : g.active = false := Bool.eq_false_iff.mpr fun hon => heditable.2 (.inr hon)
    refine ⟨?_, ?_⟩
    · show RuleState.Recorded ⟨_, _, if g.status = "deactivated" then some "draft"
        else g.lastApprovalStatus⟩
      split
      · exact recorded_some (by decide)
      · exact hrecorded
    · rintro (hon | happroved)
      · rw [desiredStatus_activated hinactive hon] at hensure
        exact absurd (approved_of_ensure htable hrecorded hinactive hensure)
          heditable.not_approved
      · replace happroved : normalizeRuleStatus (if g.status = "deactivated" then
            some "draft" else g.lastApprovalStatus) = "approved" := happroved
        split at happroved
        · exact absurd happroved (not_approved_of_recorded (g := ⟨false, false, some _⟩)
            (by decide) rfl (by decide))
        · exact absurd happroved heditable.not_approved
  | activate ruleId now _ hensure =>
    refine ⟨recorded_some (by decide), fun _ => hvetted.definition ?_⟩
    by_cases hactive : g.active = true
    · exact .inl hactive
    · exact .inr (approved_of_ensure htable hrecorded (Bool.eq_false_iff.mpr hactive) hensure)
  | deactivate => exact .of_unapproved rfl rfl (by decide) (by decide)
  | softDelete _ _ _ _ hinactive => exact .of_unapproved hinactive rfl (by decide) (by decide)
  | recover => exact .of_unapproved rfl rfl (by decide) (by decide)
  | setLifecycleStatus => exact ⟨hrecorded, hvetted.definition⟩
  | rollback ruleId now toVersionId reason requestedByUserId skipApproval tags _ version hrestored =>
    exact ⟨hrecorded, hkeeps ruleId now toVersionId reason requestedByUserId skipApproval tags rfl
      version hrestored⟩
  | recordStatusTransition ruleId now fromStatus toStatus changedBy reason _ hensure =>
    refine ⟨recorded_some toStatus.text_spec.1, ?_⟩
    rintro (hon | happroved)
    · exact hvetted.definition (.inl hon)
    · cases toStatus with
      | approved => exact happroval ruleId now fromStatus changedBy reason rfl hensure
      | pendingApproval =>
        exact absurd happroved (not_approved_of_recorded (by decide) rfl (by decide))
      | rejected => exact absurd happroved (not_approved_of_recorded (by decide) rfl (by decide))
      | tested => exact absurd happroved (not_approved_of_recorded (by decide) rfl (by decide))

/-- A rule that is not created active needs no approval. -/
theorem Newborn.vetted (h : Newborn op g)
    (hinactive : ∀ ruleId now origin fields, op = .create ruleId now origin fields →
      fields.active = false) : Vetted approved g := by
  have hblank : normalizeRuleStatus none = [] :=
    @canonicalizeStatusValue_eq_self _ [] rfl (by decide) (by decide)
  refine ⟨h.recorded, ?_⟩
  cases h with
  | create ruleId now origin fields =>
    rintro (hon | happroved)
    · exact absurd (hinactive ruleId now origin fields rfl) (Bool.eq_false_iff.not_left.mpr hon)
    · cases hblank.symm.trans happroved
  | template =>
    rintro (hon | happroved)
    · cases hon
    · cases hblank.symm.trans happroved

/-! ### Runs -/

namespace RuleStore

variable (store : RuleStore overrides)

/-- A repository, and of each rule the definition that it had when its latest approval was
recorded. -/
structure Watched where
  state : store.State
  approved : Text → Option Definition

/-- The definitions after a call: an approval that is recorded is for the definition of its
moment. -/
def remember (w : store.Watched) (op : Operation) (ruleId : Text) : Option Definition :=
  match op with
  | .recordStatusTransition target _ fromStatus .approved _ _ =>
    if target = ruleId ∧ (ensureTransitionAllowed overrides .rule fromStatus
      WorkflowStatus.approved.text).isOk then
      match store.governed? w.state ruleId with
      | some g => some g.definition
      | none => w.approved ruleId
    else w.approved ruleId
  | _ => w.approved ruleId

/-- The steps of the use cases. An edit that `update_rule` refuses is no step. -/
def UseCaseStep (w : store.Watched) (op : Operation) (w' : store.Watched) : Prop :=
  store.Step w.state op w'.state ∧ w'.approved = store.remember w op ∧
    ∀ ruleId now fields, op = .update ruleId now fields →
      ∀ g ∈ store.governed? w.state ruleId, g.Editable

/-- A creation is not asked for an active rule, and a rollback that leaves its rule active or
approved restores what was approved last. -/
def KeepsApproved (w : store.Watched) : Operation → Prop
  | .create _ _ _ fields => fields.active = false
  | .rollback ruleId now toVersionId reason requestedByUserId skipApproval tags =>
    ∀ g ∈ store.governed? w.state ruleId,
      KeepsVetted (store.restored? w.state
        (.rollback ruleId now toVersionId reason requestedByUserId skipApproval tags))
        (w.approved ruleId) g
  | _ => True

/-- Every rule that is active or approved has the definition that was approved last. -/
def Vetted (w : store.Watched) : Prop :=
  ∀ ruleId g, store.governed? w.state ruleId = some g → Lifecycle.Vetted (w.approved ruleId) g

/-- In every state of a run, an active rule has the definition that it had when its latest approval
was recorded. -/
def RunsApproved (meets : store.Watched → Operation → Prop) : Prop :=
  ∀ (start w : store.Watched) (events : List Operation), store.Vetted start →
    Runs store.UseCaseStep meets start events w →
    ∀ ruleId g, store.governed? w.state ruleId = some g → g.active = true →
      w.approved ruleId = some g.definition

variable {store} {w w' : store.Watched} {ruleId : Text}

theorem remember_self {now : Instant} {fromStatus changedBy reason : Option Text}
    (hensure : ensureTransitionAllowed overrides .rule fromStatus WorkflowStatus.approved.text =
      .ok ()) (hg : store.governed? w.state ruleId = some g) :
    store.remember w (.recordStatusTransition ruleId now fromStatus .approved changedBy reason)
      ruleId = some g.definition := by
  rw [remember, if_pos ⟨rfl, by rw [hensure]; rfl⟩, hg]

theorem remember_cases (hg : store.governed? w.state ruleId = some g) :
    store.remember w op ruleId = w.approved ruleId ∨
      store.remember w op ruleId = some g.definition := by
  unfold remember
  split
  · split
    · rw [hg]
      exact .inr rfl
    · exact .inl rfl
  · exact .inl rfl

/-- A step keeps the definitions of all rules vetted. -/
theorem step_vetted (htable : ActivatesApproved overrides) (h : store.Vetted w)
    (hstep : store.UseCaseStep w op w') (hkeeps : store.KeepsApproved w op) : store.Vetted w' := by
  obtain ⟨hstore, hremember, hedit⟩ := hstep
  intro ruleId g' hg'
  rw [hremember]
  obtain ⟨-, hborn⟩ | ⟨g, hg, hmoved⟩ := store.moves hstore hg'
  · refine hborn.vetted ?_
    rintro ruleId now origin fields rfl
    exact hkeeps
  have hvetted : Lifecycle.Vetted (store.remember w op ruleId) g := by
    have hbefore := h ruleId g hg
    obtain hsame | hnew := remember_cases hg
    · rw [hsame]
      exact hbefore
    · rw [hnew]
      exact ⟨hbefore.recorded, fun _ => rfl⟩
  obtain rfl | ⟨hid, hmove⟩ := hmoved
  · exact hvetted
  subst hid
  refine hmove.vetted htable hvetted ?_ ?_ ?_
  · rintro ruleId now fields rfl
    exact hedit ruleId now fields rfl g hg
  · rintro ruleId now toVersionId reason requestedByUserId skipApproval tags rfl
    exact hkeeps g hg
  · rintro ruleId now fromStatus changedBy reason rfl hensure
    exact remember_self hensure hg

theorem runsApproved (htable : ActivatesApproved overrides) :
    store.RunsApproved store.KeepsApproved := by
  intro start w events hstart hruns ruleId g hg hactive
  have hvetted : store.Vetted w := hruns.invariant hstart fun _ _ _ hs hstep hkeeps =>
    step_vetted htable hs hstep hkeeps
  exact (hvetted ruleId g hg).definition (.inl hactive)

end RuleStore

end Laws

/-- In both repositories an active rule has the definition that was approved last, over every run
of the use cases that creates no active rule and rolls none back to a definition that is not the
approved one. -/
theorem active_definition_approved [PyRuntime] [PyNumerals] (overrides : PolicyOverrides)
    (htable : ActivatesApproved overrides) :
    (InMemory.ruleStore overrides).RunsApproved (InMemory.ruleStore overrides).KeepsApproved ∧
      (Postgres.ruleStore overrides).RunsApproved (Postgres.ruleStore overrides).KeepsApproved :=
  ⟨RuleStore.runsApproved htable, RuleStore.runsApproved htable⟩

/-- The statuses of the built-in table are canonical, and only `approved` leads to `activated`. -/
theorem ruleStatusTransitions_spec {t : StatusTransitionDefinition}
    (h : t ∈ ruleStatusTransitions) :
    (isStatusText t.fromStatus = true ∧ t.fromStatus ≠ "pending" ∧
      t.fromStatus ≠ "declined") ∧
    (isStatusText t.toStatus = true ∧ t.toStatus ≠ "pending" ∧
      t.toStatus ≠ "declined") ∧
    (t.toStatus = "activated" → t.fromStatus = "approved") := by
  revert t
  decide

/-- Without overrides the table lets only approved rules become active. -/
theorem activatesApproved_noOverrides [PyRuntime] : ActivatesApproved noOverrides := by
  intro status hmem hallows
  have hactivated : canonicalizeStatusValue .rule (some "activated") = "activated" :=
    canonicalizeStatusValue_eq_self (by decide) (by decide) (by decide)
  rw [AllowsActivation, isTransitionDefined, canonicalizeStatusValue_recorded hmem, hactivated,
    List.any_eq_true] at hallows
  obtain ⟨t, ht, hrow⟩ := hallows
  obtain ⟨⟨hfrom, hfrom', hfrom''⟩, ⟨hto, hto', hto''⟩, happroved⟩ :=
    ruleStatusTransitions_spec ht
  rw [canonicalizeStatusValue_eq_self hfrom hfrom' hfrom'',
    canonicalizeStatusValue_eq_self hto hto' hto'', Bool.and_eq_true, decide_eq_true_eq,
    decide_eq_true_eq] at hrow
  rw [← hrow.1]
  exact happroved hrow.2

/-! ### An approval and a rollback -/

section Sample

local instance sampleRuntimeApproved : PyRuntime := sampleRuntimeActivation

local instance sampleNumeralsApproved : PyNumerals := sampleNumeralsActivation

/-- The state of a run and what it remembers, after an accepted call. -/
def sampleWatch (w : (InMemory.ruleStore noOverrides).Watched) (op : Operation) :
    (InMemory.ruleStore noOverrides).Watched :=
  ⟨InMemory.perform noOverrides w.state op, (InMemory.ruleStore noOverrides).remember w op⟩

def sampleUnwatched : (InMemory.ruleStore noOverrides).Watched :=
  ⟨(⟨[], ["user-admin"], admin_mem⟩ : InMemory.Repository), fun _ => none⟩

theorem vetted_sampleUnwatched : (InMemory.ruleStore noOverrides).Vetted sampleUnwatched := by
  intro ruleId g hg
  cases hg

/-- Calls that add no rule, on rules that the use cases let be edited, make a run in any order. -/
theorem runs_sampleWatch {meets : (InMemory.ruleStore noOverrides).Watched → Operation → Prop}
    {events : List Operation} {start : (InMemory.ruleStore noOverrides).Watched}
    (hnew : ∀ op ∈ events, op.newId? = none)
    (hmeets : MeetAll sampleWatch (fun w op => meets w op ∧
      ∀ ruleId now fields, op = .update ruleId now fields →
        ∀ g ∈ (InMemory.ruleStore noOverrides).governed? w.state ruleId, g.Editable) events start) :
    Runs (InMemory.ruleStore noOverrides).UseCaseStep meets start events
      (events.foldl sampleWatch start) := by
  induction events generalizing start with
  | nil => exact .refl
  | cons op events ih =>
    have hstep : (InMemory.ruleStore noOverrides).UseCaseStep start op (sampleWatch start op) := by
      refine ⟨⟨?_, rfl⟩, rfl, hmeets.1.2⟩
      intro ruleId hid
      rw [hnew op List.mem_cons_self] at hid
      cases hid
    exact .cons hstep hmeets.1.1 (ih (fun op hop => hnew op (List.mem_cons_of_mem _ hop)) hmeets.2)

def sampleCreated : (InMemory.ruleStore noOverrides).Watched :=
  sampleWatch sampleUnwatched sampleCreation

theorem runs_sampleCreated {meets : (InMemory.ruleStore noOverrides).Watched → Operation → Prop}
    {events : List Operation} (hcreation : meets sampleUnwatched sampleCreation)
    (hruns : Runs (InMemory.ruleStore noOverrides).UseCaseStep meets sampleCreated events
      (events.foldl sampleWatch sampleCreated)) :
    Runs (InMemory.ruleStore noOverrides).UseCaseStep meets sampleUnwatched
      (sampleCreation :: events) (events.foldl sampleWatch sampleCreated) := by
  have hstep : (InMemory.ruleStore noOverrides).UseCaseStep sampleUnwatched sampleCreation
      sampleCreated := by
    refine ⟨⟨fun _ _ => rfl, rfl⟩, rfl, ?_⟩
    rintro _ _ _ ⟨⟩
  exact .cons hstep hcreation hruns

/-- The created rule is submitted, approved and activated. -/
def sampleActivated : List Operation := sampleApproval ++ [.activate "r" 4]

/-- An activated rule has the definition that was approved. -/
theorem active_definition_approved_of_activation :
    ∃ g, (InMemory.ruleStore noOverrides).governed?
        (sampleActivated.foldl sampleWatch sampleCreated).state "r" = some g ∧
      g.active = true ∧
      (sampleActivated.foldl sampleWatch sampleCreated).approved "r" =
        some g.definition := by
  have hactive : ((InMemory.ruleStore noOverrides).governed?
      (sampleActivated.foldl sampleWatch sampleCreated).state "r").map (fun g => g.active) = some true := by
    decide +kernel
  obtain ⟨g, hg, hon⟩ := Option.map_eq_some_iff.mp hactive
  refine ⟨g, hg, hon, ?_⟩
  refine (active_definition_approved noOverrides activatesApproved_noOverrides).1 _ _ _
    vetted_sampleUnwatched (runs_sampleCreated rfl (runs_sampleWatch (by decide) ?_)) _ g hg hon
  refine ⟨⟨trivial, ?_⟩, ⟨trivial, ?_⟩, ⟨trivial, ?_⟩, trivial⟩
  all_goals rintro _ _ _ ⟨⟩

/-- A rule is edited and approved, rolled back to its first version, and activated. -/
def sampleRevival : List Operation :=
  InMemory.sampleEdit "phone IS NOT NULL" [] :: sampleApproval ++
    [.rollback "r" 6 "rv-001" "as it was" none false none,
     .activate "r" 7]

/-- The rolled back rule is active under the approval of the edit. -/
theorem rollback_runs_unapproved :
    ¬ ∀ overrides : PolicyOverrides, ActivatesApproved overrides →
      (InMemory.ruleStore overrides).RunsApproved fun _ _ => True := by
  intro h
  have heditable : ((InMemory.ruleStore noOverrides).governed? sampleCreated.state
      "r".toList).all (fun g => decide g.Editable) = true := by
    decide +kernel
  have hfinal : ((InMemory.ruleStore noOverrides).governed?
      (sampleRevival.foldl sampleWatch sampleCreated).state "r".toList).map
        (fun g => (g.active, g.definition.versioned.expression)) =
          some (true, "email IS NOT NULL".toList) := by
    decide +kernel
  have happroved : ((sampleRevival.foldl sampleWatch sampleCreated).approved "r".toList).map
      (fun definition => definition.versioned.expression) = some "phone IS NOT NULL".toList := by
    decide +kernel
  obtain ⟨g, hg, hstate⟩ := Option.map_eq_some_iff.mp hfinal
  obtain ⟨hon, hexpression⟩ := Prod.mk.inj hstate
  have hruns : Runs (InMemory.ruleStore noOverrides).UseCaseStep (fun _ _ => True) sampleUnwatched
      (sampleCreation :: sampleRevival) (sampleRevival.foldl sampleWatch sampleCreated) := by
    refine runs_sampleCreated trivial (runs_sampleWatch (by decide) ?_)
    refine ⟨⟨trivial, ?_⟩, ⟨trivial, ?_⟩, ⟨trivial, ?_⟩, ⟨trivial, ?_⟩, ⟨trivial, ?_⟩, trivial⟩
    · rintro _ _ _ ⟨⟩ g hg
      rw [Option.mem_def.mp hg] at heditable
      exact of_decide_eq_true heditable
    all_goals rintro _ _ _ ⟨⟩
  have hsame := h noOverrides activatesApproved_noOverrides _ _ _ vetted_sampleUnwatched hruns _ g
    hg hon
  rw [hsame, Option.map_some, hexpression] at happroved
  exact absurd happroved (by decide)

end Sample

end Lifecycle

end DqMadeEasy
