import DqMadeEasy.Lifecycle.Rollback

/-!
# What governs a rule

Both repositories keep of a rule the same few fields that decide what may happen to it next: whether
it is removed, whether it is active, its recorded statuses and its executable definition. A call
leaves these fields of a rule as they are or moves them in one of the ways of `Move`, whichever
repository it is a call of. A law of the moves holds in both.
-/

namespace DqMadeEasy

namespace Lifecycle

open Transition

/-- What governs a rule, with its lifecycle status and its definition. -/
structure Governed extends RuleState where
  lifecycleStatus : Option Text
  definition : Definition

/-- What a rollback restores of a version. -/
structure Restored where
  active : Bool
  versioned : Versioned

/-- The id of the rule that a call is about. -/
def Operation.ruleId : Operation → Text
  | .create ruleId _ _ _ => ruleId
  | .update ruleId _ _ => ruleId
  | .activate ruleId _ => ruleId
  | .deactivate ruleId _ => ruleId
  | .softDelete ruleId _ _ => ruleId
  | .recover ruleId _ _ => ruleId
  | .setLifecycleStatus ruleId _ _ _ _ => ruleId
  | .rollback ruleId _ _ _ _ _ _ => ruleId
  | .updateVersionTags ruleId _ _ => ruleId
  | .markForRollback ruleId _ _ => ruleId
  | .setVersionValidation ruleId _ _ _ => ruleId
  | .recordAuditEvent ruleId _ _ _ _ _ _ _ => ruleId
  | .recordStatusTransition ruleId _ _ _ _ _ => ruleId
  | .saveAsTemplate templateId _ _ _ _ _ => templateId

section Moves

variable [PyRuntime]

/-- `derive_rule_lifecycle_status_from_row`. -/
def deriveRuleLifecycleStatus (removed : Bool) (lifecycleStatus : Option Text) : Text :=
  let normalized := canonicalizeStatusValue .ruleLifecycle lifecycleStatus
  if normalized ≠ [] then normalized
  else if removed then "retired"
  else "active"

def Governed.shownLifecycleStatus (g : Governed) : Text :=
  deriveRuleLifecycleStatus g.removed g.lifecycleStatus

theorem canonical_of_shown {removed : Bool} {lifecycleStatus : Option Text}
    (hremoved : removed = false)
    (h : deriveRuleLifecycleStatus removed lifecycleStatus = "retired") :
    canonicalizeStatusValue .ruleLifecycle lifecycleStatus = "retired" := by
  rw [deriveRuleLifecycleStatus, hremoved] at h
  split at h
  · exact h
  · cases h

theorem canonicalizeStatusValue_retired :
    canonicalizeStatusValue .ruleLifecycle (some "retired") = "retired" :=
  normalizeStatusValue_eq_self rfl

theorem ensureTransitionAllowed_congr {overrides : PolicyOverrides} {entity : StatusEntity}
    {fromStatus fromStatus' : Option Text} (toStatus : Text)
    (h : canonicalizeStatusValue entity fromStatus = canonicalizeStatusValue entity fromStatus') :
    ensureTransitionAllowed overrides entity fromStatus toStatus =
      ensureTransitionAllowed overrides entity fromStatus' toStatus := by
  rw [ensureTransitionAllowed, ensureTransitionAllowed, h]

/-- The canonical form of a lifecycle status is that of its text without the white space around
it. -/
theorem canonicalizeStatusValue_strip {lifecycleStatus : Option Text}
    (h : canonicalizeStatusValue .ruleLifecycle lifecycleStatus ≠ []) :
    canonicalizeStatusValue .ruleLifecycle
      (some ((strippedOrNone lifecycleStatus).getD "active")) =
        canonicalizeStatusValue .ruleLifecycle lifecycleStatus := by
  have hstrip : Text.strip (lifecycleStatus.getD []) ≠ [] := by
    intro hblank
    apply h
    show Text.replace ['_'] ['-'] (PyRuntime.lower (Text.strip (lifecycleStatus.getD []))) = []
    rw [hblank, PyRuntime.lower_ascii [] (by simp)]
    rfl
  rw [strippedOrNone, if_neg hstrip]
  show Text.replace ['_'] ['-'] (PyRuntime.lower (Text.strip (Text.strip _))) = _
  rw [Text.strip_strip]
  rfl

/-- What a call does to a rule that is there, where `restored` is what a rollback finds to
restore. -/
inductive Move (overrides : PolicyOverrides) (restored : Option Restored) :
    Operation → Governed → Governed → Prop
  | same (op : Operation) (g : Governed) : Move overrides restored op g g
  | update (ruleId : Text) (now : Instant) (fields : RuleFields) (definition : Definition)
      (g : Governed) :
      ensureTransitionAllowed overrides .rule (some g.status)
        (InMemory.desiredStatus g.status g.active fields.active) = .ok () →
      Move overrides restored (.update ruleId now fields) g { g with
        active := fields.active
        lastApprovalStatus :=
          if g.status = "deactivated" then some "draft" else g.lastApprovalStatus
        definition := definition }
  | activate (ruleId : Text) (now : Instant) (g : Governed) :
      ensureRuleTransitionAllowed overrides (some g.status) "activated" = .ok () →
      Move overrides restored (.activate ruleId now) g { g with
        active := true
        lastApprovalStatus := some "approved" }
  | deactivate (ruleId : Text) (now : Instant) (g : Governed) :
      Move overrides restored (.deactivate ruleId now) g { g with
        active := false
        lastApprovalStatus := some "deactivated" }
  | softDelete (ruleId : Text) (now : Instant) (removedBy : Text) (g : Governed) :
      g.active = false →
      Move overrides restored (.softDelete ruleId now removedBy) g { g with
        removed := true
        lastApprovalStatus := some "removed" }
  | recover (ruleId : Text) (now : Instant) (recoveredBy : Text) (g : Governed) :
      g.removed = true →
      Move overrides restored (.recover ruleId now recoveredBy) g { g with
        removed := false
        active := false
        lastApprovalStatus := some "recovered" }
  | setLifecycleStatus (ruleId : Text) (now : Instant) (lifecycleStatus : Text)
      (changedBy reason : Option Text) (g : Governed) :
      g.removed = false →
      (canonicalizeStatusValue .ruleLifecycle (some lifecycleStatus) = "retired" →
        g.active = false) →
      (g.shownLifecycleStatus = "retired" →
        ensureRuleLifecycleTransitionAllowed overrides (some "retired")
          (canonicalizeStatusValue .ruleLifecycle (some lifecycleStatus)) = .ok ()) →
      Move overrides restored (.setLifecycleStatus ruleId now lifecycleStatus changedBy reason) g
        { g with
          lifecycleStatus := some (canonicalizeStatusValue .ruleLifecycle (some lifecycleStatus)) }
  | rollback (ruleId : Text) (now : Instant) (toVersionId reason : Text)
      (requestedByUserId : Option Text) (skipApproval : Bool) (tags : Option (List Text))
      (g : Governed) (version : Restored) :
      restored = some version →
      Move overrides restored
        (.rollback ruleId now toVersionId reason requestedByUserId skipApproval tags) g { g with
          active := version.active
          definition := ⟨version.versioned, g.definition.unversioned⟩ }
  | recordStatusTransition (ruleId : Text) (now : Instant) (fromStatus : Option Text)
      (toStatus : WorkflowStatus) (changedBy reason : Option Text) (g : Governed) :
      ensureTransitionAllowed overrides .rule fromStatus toStatus.text = .ok () →
      Move overrides restored
        (.recordStatusTransition ruleId now fromStatus toStatus changedBy reason) g { g with
          lastApprovalStatus := some toStatus.text }

omit [PyRuntime] in
/-- What a call stores of a rule that it adds. -/
inductive Newborn : Operation → Governed → Prop
  | create (ruleId : Text) (now : Instant) (origin : Origin) (fields : RuleFields)
      (definition : Definition) :
      Newborn (.create ruleId now origin fields)
        ⟨⟨false, fields.active, none⟩, some "active", definition⟩
  | template (templateId : Text) (now : Instant) (ruleId templateName : Text)
      (templateDescription : Option Text) (createdBy : Text) (definition : Definition) :
      Newborn (.saveAsTemplate templateId now ruleId templateName templateDescription createdBy)
        ⟨⟨false, false, none⟩, none, definition⟩

/-- What is stored of a rule that is added has no recorded status. -/
theorem Newborn.recorded {op : Operation} {g : Governed} (h : Newborn op g) : g.Recorded := by
  cases h with
  | create => exact recorded_none
  | template => exact recorded_none

/-- A repository of rules whose calls move what governs a rule. -/
structure RuleStore (overrides : PolicyOverrides) where
  State : Type
  Step : State → Operation → State → Prop
  governed? : State → Text → Option Governed
  /-- What a rollback finds to restore. -/
  restored? : State → Operation → Option Restored
  moves {s s' : State} {op : Operation} {ruleId : Text} {g' : Governed} : Step s op s' →
    governed? s' ruleId = some g' →
    (governed? s ruleId = none ∧ Newborn op g') ∨ ∃ g, governed? s ruleId = some g ∧
      (g' = g ∨ op.ruleId = ruleId ∧ Move overrides (restored? s op) op g g')
  keeps {s s' : State} {op : Operation} {ruleId : Text} {g : Governed} : Step s op s' →
    governed? s ruleId = some g → ∃ g', governed? s' ruleId = some g'

variable {overrides : PolicyOverrides} (store : RuleStore overrides)

theorem RuleStore.moved {s s' : store.State} {op : Operation} {ruleId : Text} {g : Governed}
    (hstep : store.Step s op s') (h : store.governed? s ruleId = some g) :
    ∃ g', store.governed? s' ruleId = some g' ∧
      (g' = g ∨ op.ruleId = ruleId ∧ Move overrides (store.restored? s op) op g g') := by
  obtain ⟨g', hg'⟩ := store.keeps hstep h
  obtain ⟨hnone, -⟩ | ⟨found, hfound, hmoved⟩ := store.moves hstep hg'
  · rw [h] at hnone
    cases hnone
  · rw [h] at hfound
    cases hfound
    exact ⟨g', hg', hmoved⟩

end Moves

/-! ### The in-memory repository -/

namespace InMemory

def StoredRule.governed (r : StoredRule) : Governed where
  toRuleState := StoredRule.state r
  lifecycleStatus := r.details.lifecycleStatus
  definition := r.definition

/-- What a rollback finds to restore. -/
def restored? (repo : Repository) : Operation → Option Restored
  | .rollback ruleId _ toVersionId _ _ _ _ =>
    ((repo.find? ruleId).bind (rollbackTarget? ruleId toVersionId)).map fun snapshot =>
      ⟨snapshot.active, snapshot.versioned⟩
  | _ => none

section Moves

variable [PyRuntime] {overrides : PolicyOverrides} {repo repo' : Repository} {op : Operation}
  {ruleId : Text} {r r' : StoredRule} {now : Instant} {restored : Option Restored}

theorem move_updated {fields : RuleFields}
    (h : updatedRule overrides now fields r = .ok (some r')) :
    Move overrides restored (.update ruleId now fields) (StoredRule.governed r)
      (StoredRule.governed r') := by
  rw [updatedRule] at h
  obtain ⟨_, hensure, hstore⟩ := ok_of_bind h
  cases hstore
  exact .update ruleId now fields _ (StoredRule.governed r) hensure

theorem move_activated (h : activatedRule overrides now r = .ok (some r')) :
    Move overrides restored (.activate ruleId now) (StoredRule.governed r)
      (StoredRule.governed r') := by
  rw [activatedRule] at h
  obtain ⟨_, hensure, hstore⟩ := ok_of_bind h
  cases hstore
  exact .activate ruleId now (StoredRule.governed r) hensure

theorem move_deactivated (h : deactivatedRule overrides now r = .ok (some r')) :
    Move overrides restored (.deactivate ruleId now) (StoredRule.governed r)
      (StoredRule.governed r') := by
  rw [deactivatedRule] at h
  obtain ⟨_, _, hstore⟩ := ok_of_bind h
  cases hstore
  exact .deactivate ruleId now (StoredRule.governed r)

theorem move_softDeleted {removedBy : Text}
    (h : softDeletedRule overrides now removedBy r = .ok (some r')) :
    Move overrides restored (.softDelete ruleId now removedBy) (StoredRule.governed r)
      (StoredRule.governed r') := by
  rw [softDeletedRule] at h
  obtain ⟨_, _, h⟩ := ok_of_bind h
  obtain ⟨_, hinactive, h⟩ := ok_of_bind h
  obtain ⟨_, _, h⟩ := ok_of_bind h
  obtain ⟨_, _, hstore⟩ := ok_of_bind h
  cases hstore
  exact .softDelete ruleId now removedBy (StoredRule.governed r)
    (Bool.eq_false_iff.mpr (not_of_raiseIf hinactive))

theorem move_recovered {recoveredBy : Text}
    (h : recoveredRule overrides now recoveredBy r = .ok (some r')) :
    Move overrides restored (.recover ruleId now recoveredBy) (StoredRule.governed r)
      (StoredRule.governed r') := by
  rw [recoveredRule] at h
  obtain ⟨_, hremoved, h⟩ := ok_of_bind h
  obtain ⟨_, _, hstore⟩ := ok_of_bind h
  cases hstore
  refine .recover ruleId now recoveredBy (StoredRule.governed r) ?_
  refine Option.isSome_iff_ne_none.mpr fun hnone => ?_
  exact not_of_raiseIf hremoved (Option.isNone_iff_eq_none.mpr hnone)

theorem move_lifecycle {lifecycleStatus : Text} {changedBy reason : Option Text}
    (h : lifecycleRule overrides now lifecycleStatus changedBy reason r = .ok (some r')) :
    Move overrides restored (.setLifecycleStatus ruleId now lifecycleStatus changedBy reason)
      (StoredRule.governed r) (StoredRule.governed r') := by
  rw [lifecycleRule] at h
  split at h
  · cases h
  rename_i hremoved
  obtain ⟨_, _, h⟩ := ok_of_bind h
  obtain ⟨_, hactive, h⟩ := ok_of_bind h
  obtain ⟨_, hensure, hstore⟩ := ok_of_bind h
  cases hstore
  have hkept : (StoredRule.governed r).removed = false := Bool.eq_false_iff.mpr hremoved
  refine .setLifecycleStatus ruleId now lifecycleStatus changedBy reason (StoredRule.governed r)
    hkept ?_ ?_
  · intro htarget
    exact Bool.eq_false_iff.mpr fun hon => not_of_raiseIf hactive ⟨htarget, hon⟩
  · intro hshown
    rw [← hensure]
    apply ensureTransitionAllowed_congr
    have hcanonical : canonicalizeStatusValue .ruleLifecycle r.details.lifecycleStatus =
        "retired" := canonical_of_shown hkept hshown
    rw [currentLifecycleStatus, canonicalizeStatusValue_strip (by rw [hcanonical]; decide),
      hcanonical, canonicalizeStatusValue_retired]

theorem move_rolledBack {toVersionId actorId reason : Text} {requestedByUserId : Option Text}
    {skipApproval : Bool} {tags : Option (List Text)} (hfind : repo.find? ruleId = some r)
    (hop : op = .rollback ruleId now toVersionId reason requestedByUserId skipApproval tags) :
    Move overrides (restored? repo op) op (StoredRule.governed r) (StoredRule.governed
      (rolledBackRule now ruleId toVersionId actorId reason skipApproval tags r).2) := by
  subst hop
  cases htarget : rollbackTarget? ruleId toVersionId r with
  | none =>
    obtain ⟨_, -, hentity, hdetails⟩ :=
      rolledBackRule_of_none now actorId reason skipApproval tags htarget
    have hgoverned : StoredRule.governed
        (rolledBackRule now ruleId toVersionId actorId reason skipApproval tags r).2 =
          StoredRule.governed r := by
      simp only [StoredRule.governed, StoredRule.state, StoredRule.definition,
        StoredRule.versioned, StoredRule.unversioned, hentity, hdetails]
    rw [hgoverned]
    exact .same _ _
  | some snapshot =>
    obtain ⟨current, target, description, receipt, -, -, hrolled⟩ :=
      rolledBackRule_of_some now actorId reason skipApproval tags htarget
    rw [hrolled]
    refine .rollback ruleId now toVersionId reason requestedByUserId skipApproval tags
      (StoredRule.governed r) ⟨snapshot.active, snapshot.versioned⟩ ?_
    rw [restored?, hfind, Option.bind_some, htarget, Option.map_some]

theorem move_transitioned {fromStatus : Option Text} {toStatus : WorkflowStatus}
    {changedBy reason : Option Text}
    (h : transitionedRule overrides now fromStatus toStatus.text changedBy reason r = .ok r') :
    Move overrides restored
      (.recordStatusTransition ruleId now fromStatus toStatus changedBy reason)
      (StoredRule.governed r) (StoredRule.governed r') := by
  obtain ⟨hmem, hnorm⟩ := toStatus.text_spec
  rw [transitionedRule, hnorm] at h
  obtain ⟨_, hensure, hstore⟩ := ok_of_bind h
  simp only [if_neg (recordedStatuses_spec hmem).2.2.2.1] at hstore
  cases hstore
  exact .recordStatusTransition ruleId now fromStatus toStatus changedBy reason
    (StoredRule.governed r) hensure

/-- A call moves what governs its rule. -/
theorem Changed.move (h : Changed overrides repo op ruleId r r')
    (hfind : repo.find? ruleId = some r) :
    StoredRule.governed r' = StoredRule.governed r ∨ op.ruleId = ruleId ∧
      Move overrides (restored? repo op) op (StoredRule.governed r) (StoredRule.governed r') := by
  cases h with
  | update hchange => exact .inr ⟨rfl, move_updated hchange⟩
  | activate hchange => exact .inr ⟨rfl, move_activated hchange⟩
  | deactivate hchange => exact .inr ⟨rfl, move_deactivated hchange⟩
  | softDelete hchange => exact .inr ⟨rfl, move_softDeleted hchange⟩
  | recover hchange => exact .inr ⟨rfl, move_recovered hchange⟩
  | setLifecycleStatus hchange => exact .inr ⟨rfl, move_lifecycle hchange⟩
  | rollback => exact .inr ⟨rfl, move_rolledBack hfind rfl⟩
  | version => exact .inl rfl
  | recordAuditEvent => exact .inl rfl
  | recordStatusTransition hchange => exact .inr ⟨rfl, move_transitioned hchange⟩

theorem Born.newborn (h : Born repo op ruleId r') : Newborn op (StoredRule.governed r') := by
  cases h with
  | create _ now origin fields => exact .create ruleId now origin fields _
  | template _ now templateName templateDescription createdBy =>
    exact .template ruleId now _ templateName templateDescription createdBy _

end Moves

/-- The in-memory repository. -/
def ruleStore [PyRuntime] (overrides : PolicyOverrides) : RuleStore overrides where
  State := Repository
  Step := Step overrides
  governed? repo ruleId := (repo.find? ruleId).map StoredRule.governed
  restored? := restored?
  moves := by
    intro repo repo' op ruleId g' hstep hg'
    obtain ⟨r', hr', rfl⟩ := Option.map_eq_some_iff.mp hg'
    obtain ⟨hnone, hborn⟩ | ⟨r, hr, rfl | hchanged⟩ := step_entry hstep hr'
    · exact .inl ⟨by rw [hnone, Option.map_none], hborn.newborn⟩
    · exact .inr ⟨_, by rw [hr, Option.map_some], .inl rfl⟩
    · exact .inr ⟨_, by rw [hr, Option.map_some], hchanged.move hr⟩
  keeps := by
    intro repo repo' op ruleId g hstep hg
    obtain ⟨r, hr, rfl⟩ := Option.map_eq_some_iff.mp hg
    obtain ⟨r', hr', -⟩ := step_find hstep hr
    exact ⟨StoredRule.governed r', by rw [hr', Option.map_some]⟩

end InMemory

/-! ### The tables -/

namespace Postgres

def StoredRows.definition (rows : StoredRows) : Definition where
  versioned := {
    expression := rows.row.expression
    checkType := rows.row.checkType
    checkTypeParams := rows.row.checkTypeParams
    dsl := rows.row.dsl }
  unversioned := {
    joinConditions := rows.row.joinConditions
    aliasMappings := rows.row.aliasMappings
    reusableFilterIds := rows.reusableFilterIds }

def StoredRows.governed (rows : StoredRows) : Governed where
  toRuleState := StoredRows.state rows
  lifecycleStatus := rows.row.lifecycleStatus
  definition := rows.definition

def RuleVersionRow.versioned (version : RuleVersionRow) : Versioned where
  expression := version.expression
  checkType := version.checkType
  checkTypeParams := version.checkTypeParams
  dsl := version.dsl

/-- What a rollback finds to restore. -/
def restored? (tables : Tables) : Operation → Option Restored
  | .rollback ruleId _ toVersionId _ _ _ _ =>
    ((tables.find? ruleId).bind (rollbackTarget? toVersionId)).map fun version =>
      ⟨version.active, version.versioned⟩
  | _ => none

section Moves

variable [PyRuntime] {overrides : PolicyOverrides} {draws : Draws} {tables tables' : Tables}
  {op : Operation} {ruleId : Text} {rows rows' : StoredRows} {now : Instant}
  {restored : Option Restored}

theorem move_activated (h : activatedRows overrides now rows = .ok (some rows')) :
    Move overrides restored (.activate ruleId now) rows.governed rows'.governed := by
  rw [activatedRows] at h
  split at h
  · cases h
  obtain ⟨_, hensure, hstore⟩ := ok_of_bind h
  cases hstore
  exact .activate ruleId now rows.governed hensure

theorem move_deactivated (h : deactivatedRows overrides now rows = .ok (some rows')) :
    Move overrides restored (.deactivate ruleId now) rows.governed rows'.governed := by
  rw [deactivatedRows] at h
  split at h
  · cases h
  obtain ⟨_, _, hstore⟩ := ok_of_bind h
  cases hstore
  exact .deactivate ruleId now rows.governed

theorem move_softDeleted {removedBy : Text}
    (h : softDeletedRows overrides now removedBy rows = .ok (some rows')) :
    Move overrides restored (.softDelete ruleId now removedBy) rows.governed rows'.governed := by
  rw [softDeletedRows] at h
  obtain ⟨_, _, h⟩ := ok_of_bind h
  obtain ⟨_, hinactive, h⟩ := ok_of_bind h
  obtain ⟨_, _, h⟩ := ok_of_bind h
  obtain ⟨_, _, hstore⟩ := ok_of_bind h
  cases hstore
  exact .softDelete ruleId now removedBy rows.governed
    (Bool.eq_false_iff.mpr (not_of_raiseIf hinactive))

theorem move_recovered {recoveredBy : Text}
    (h : recoveredRows overrides now recoveredBy rows = .ok (some rows')) :
    Move overrides restored (.recover ruleId now recoveredBy) rows.governed rows'.governed := by
  rw [recoveredRows] at h
  obtain ⟨_, hremoved, h⟩ := ok_of_bind h
  obtain ⟨_, _, hstore⟩ := ok_of_bind h
  cases hstore
  refine .recover ruleId now recoveredBy rows.governed ?_
  refine Option.isSome_iff_ne_none.mpr fun hnone => ?_
  exact not_of_raiseIf hremoved (Option.isNone_iff_eq_none.mpr hnone)

theorem move_lifecycle {lifecycleStatus : Text} {changedBy reason : Option Text}
    (h : lifecycleRows overrides now lifecycleStatus changedBy reason rows = .ok (some rows')) :
    Move overrides restored (.setLifecycleStatus ruleId now lifecycleStatus changedBy reason)
      rows.governed rows'.governed := by
  rw [lifecycleRows] at h
  split at h
  · cases h
  rename_i hdeleted
  obtain ⟨_, _, h⟩ := ok_of_bind h
  obtain ⟨_, hactive, h⟩ := ok_of_bind h
  obtain ⟨_, hensure, hstore⟩ := ok_of_bind h
  cases hstore
  have hkept : rows.governed.removed = false := Bool.eq_false_iff.mpr hdeleted
  refine .setLifecycleStatus ruleId now lifecycleStatus changedBy reason rows.governed hkept ?_ ?_
  · intro htarget
    refine Bool.eq_false_iff.mpr fun hon => not_of_raiseIf hactive ⟨htarget, ?_⟩
    rw [RuleRow.deriveRuleStatus, ruleStatusOf, if_neg hdeleted]
    exact if_pos hon
  · intro hshown
    have hcanonical : canonicalizeStatusValue .ruleLifecycle rows.row.lifecycleStatus =
        "retired" := canonical_of_shown hkept hshown
    rw [← hensure, hcanonical]
    rfl

theorem move_rolledBack {versionId rollbackId toVersionId actorId reason : Text}
    {requestedByUserId : Option Text} {skipApproval : Bool} {tags : Option (List Text)}
    (hfind : tables.find? ruleId = some rows)
    (h : rolledBackRows ruleId versionId rollbackId now toVersionId actorId reason tags rows =
      .ok (some rows'))
    (hop : op = .rollback ruleId now toVersionId reason requestedByUserId skipApproval tags) :
    Move overrides (restored? tables op) op rows.governed rows'.governed := by
  subst hop
  rw [rolledBackRows] at h
  split at h
  · cases h
  rename_i hdeleted
  obtain ⟨_, hcurrent, h⟩ := ok_of_bind h
  obtain ⟨_, hmissing, h⟩ := ok_of_bind h
  obtain ⟨target, htarget, hstore⟩ := ok_of_bind h
  cases hstore
  refine .rollback ruleId now toVersionId reason requestedByUserId skipApproval tags rows.governed
    ⟨target.active, RuleVersionRow.versioned target⟩ ?_
  rw [restored?, hfind, Option.bind_some, rollbackTarget?, if_neg, eq_some_of_orRaise htarget,
    Option.map_some]
  rintro (hremoved | heq | hempty)
  · exact hdeleted hremoved
  · exact not_of_raiseIf hcurrent heq
  · exact not_of_raiseIf hmissing hempty

theorem move_transitioned {fromStatus : Option Text} {toStatus : WorkflowStatus}
    {changedBy reason : Option Text}
    (h : transitionedRows overrides now fromStatus toStatus.text changedBy reason rows =
      .ok (some rows')) :
    Move overrides restored
      (.recordStatusTransition ruleId now fromStatus toStatus changedBy reason)
      rows.governed rows'.governed := by
  obtain ⟨hmem, hnorm⟩ := toStatus.text_spec
  rw [transitionedRows, hnorm] at h
  obtain ⟨_, hensure, hstore⟩ := ok_of_bind h
  simp only [if_neg (recordedStatuses_spec hmem).2.2.2.1] at hstore
  cases hstore
  exact .recordStatusTransition ruleId now fromStatus toStatus changedBy reason rows.governed
    hensure

omit [PyRuntime] in
theorem governed_validated {validationStatus : Text} {validatedBy : Option Text}
    (h : validatedRows now validationStatus validatedBy rows = .ok (some rows')) :
    rows'.governed = rows.governed := by
  rw [validatedRows] at h
  split at h
  · cases h
  split at h
  · cases h
  split at h
  · cases h
  cases h
  rfl

omit [PyRuntime] in
theorem governed_changedVersion {versionId : Text} {change : RuleVersionRow → RuleVersionRow}
    (h : changedVersionRows versionId change rows = .ok (some rows')) :
    rows'.governed = rows.governed := by
  rw [changedVersionRows] at h
  split at h
  · cases h
  cases h
  rfl

variable [PyNumerals]

theorem move_updated {versionId : Text} {fields : RuleFields}
    (h : updatedRows overrides versionId now fields rows = .ok (some rows')) :
    Move overrides restored (.update ruleId now fields) rows.governed rows'.governed := by
  rw [updatedRows] at h
  split at h
  · cases h
  obtain ⟨_, hensure, h⟩ := ok_of_bind h
  obtain ⟨_, _, hstore⟩ := ok_of_bind h
  cases hstore
  exact .update ruleId now fields _ rows.governed hensure

/-- A call moves what governs its rule. -/
theorem move_of_changeOf {change : StoredRows → Except RepositoryError (Option StoredRows)}
    (hop : changeOf overrides draws op = some (ruleId, change))
    (hchange : change rows = .ok (some rows')) (hfind : tables.find? ruleId = some rows) :
    rows'.governed = rows.governed ∨ op.ruleId = ruleId ∧
      Move overrides (restored? tables op) op rows.governed rows'.governed := by
  cases op with
  | create => cases hop
  | saveAsTemplate => cases hop
  | update => cases hop; exact .inr ⟨rfl, move_updated hchange⟩
  | activate => cases hop; exact .inr ⟨rfl, move_activated hchange⟩
  | deactivate => cases hop; exact .inr ⟨rfl, move_deactivated hchange⟩
  | softDelete => cases hop; exact .inr ⟨rfl, move_softDeleted hchange⟩
  | recover => cases hop; exact .inr ⟨rfl, move_recovered hchange⟩
  | setLifecycleStatus => cases hop; exact .inr ⟨rfl, move_lifecycle hchange⟩
  | rollback => cases hop; exact .inr ⟨rfl, move_rolledBack hfind hchange rfl⟩
  | updateVersionTags => cases hop; exact .inl (governed_changedVersion hchange)
  | markForRollback => cases hop; exact .inl (governed_changedVersion hchange)
  | setVersionValidation => cases hop; exact .inl (governed_validated hchange)
  | recordAuditEvent => cases hop; cases hchange; exact .inl rfl
  | recordStatusTransition => cases hop; exact .inr ⟨rfl, move_transitioned hchange⟩

theorem Born.newborn (h : Born draws tables op ruleId rows') : Newborn op rows'.governed := by
  cases h with
  | create _ now origin fields => exact .create ruleId now origin fields _
  | template _ now templateName templateDescription createdBy =>
    exact .template ruleId now _ templateName templateDescription createdBy _

/-- A rule that is there before a step is there after it. -/
theorem step_find (hstep : Step overrides tables op tables')
    (h : tables.find? ruleId = some rows) : ∃ rows', tables'.find? ruleId = some rows' := by
  have hput : ∀ target rows₀, ∃ rows', (tables.put target rows₀).find? ruleId = some rows' := by
    intro target rows₀
    by_cases hid : ruleId = target
    · rw [hid]
      exact ⟨rows₀, Tables.find?_put_self tables target rows₀⟩
    · exact ⟨rows, (Tables.find?_put_of_ne hid).trans h⟩
  obtain ⟨-, draws, rfl⟩ := hstep
  obtain hsame | ⟨target, rows₀, -, -, hnew⟩ | ⟨target, -, -, rows₀, -, -, -, hnew⟩ :=
    perform_cases overrides draws tables op
  · rw [hsame]
    exact ⟨rows, h⟩
  · rw [hnew]
    exact hput target rows₀
  · rw [hnew]
    exact hput target rows₀

end Moves

/-- The tables. -/
def ruleStore [PyRuntime] [PyNumerals] (overrides : PolicyOverrides) : RuleStore overrides where
  State := Tables
  Step := Step overrides
  governed? tables ruleId := (tables.find? ruleId).map StoredRows.governed
  restored? := restored?
  moves := by
    intro tables tables' op ruleId g' hstep hg'
    obtain ⟨rows', hrows', rfl⟩ := Option.map_eq_some_iff.mp hg'
    obtain ⟨hnone, _, hborn⟩ | ⟨rows, hrows, rfl | ⟨_, _, hop, hchange⟩⟩ := step_entry hstep hrows'
    · exact .inl ⟨by rw [hnone, Option.map_none], hborn.newborn⟩
    · exact .inr ⟨_, by rw [hrows, Option.map_some], .inl rfl⟩
    · exact .inr ⟨_, by rw [hrows, Option.map_some], move_of_changeOf hop hchange hrows⟩
  keeps := by
    intro tables tables' op ruleId g hstep hg
    obtain ⟨rows, hrows, rfl⟩ := Option.map_eq_some_iff.mp hg
    obtain ⟨rows', hrows'⟩ := step_find hstep hrows
    exact ⟨rows'.governed, by rw [hrows', Option.map_some]⟩

end Postgres

end Lifecycle

end DqMadeEasy
