import DqMadeEasy.Lifecycle.RuleState

/-!
# What a rollback restores

The executable definition of a rule is spread over its entity and its details. A version row keeps
a part of it. The join conditions, the alias mappings and the references to reusable filters stand
in the details alone, where every edit replaces them, so a rollback finds those of the last edit.

The ids of version rows number on from the highest version number, so no row is shadowed by a later
one of the same id, and no method changes what a row restores.
-/

namespace DqMadeEasy

namespace Lifecycle

open Transition

/-- The part of an executable definition that a version row keeps. -/
structure Versioned where
  expression : Text
  checkType : Option Text
  checkTypeParams : Option Dict
  dsl : Option Dict

/-- The part of an executable definition that no version row keeps. -/
structure Unversioned where
  joinConditions : List Dict
  aliasMappings : Dict
  reusableFilterIds : List Text

/-- The executable definition of a rule. -/
structure Definition where
  versioned : Versioned
  unversioned : Unversioned

def StoredRule.versioned (r : StoredRule) : Versioned where
  expression := r.entity.expression
  checkType := r.details.checkType
  checkTypeParams := r.details.checkTypeParams
  dsl := r.details.dsl

def StoredRule.unversioned (r : StoredRule) : Unversioned where
  joinConditions := r.details.joinConditions
  aliasMappings := r.details.aliasMappings
  reusableFilterIds := r.details.reusableFilterIds

def StoredRule.definition (r : StoredRule) : Definition := ⟨r.versioned, r.unversioned⟩

def RuleSnapshot.versioned (snapshot : RuleSnapshot) : Versioned where
  expression := snapshot.expression
  checkType := snapshot.checkType
  checkTypeParams := snapshot.checkTypeParams
  dsl := snapshot.dsl

def StoredRule.currentVersionId (r : StoredRule) : Option Text := r.versions.head?.map VersionRow.id

/-! ### Version rows -/

/-- What identifies a version row, and what a rollback to it restores: nothing without the key
`description`. -/
structure VersionContent where
  id : Text
  number : ℕ
  restores : Option Versioned

def VersionRow.content (row : VersionRow) : VersionContent where
  id := row.id
  number := row.versionNumber
  restores := row.rule.description.map fun _ => row.rule.versioned

def StoredRule.contents (r : StoredRule) : List VersionContent := r.versions.map VersionRow.content

/-- The rows of a rule are told apart by their ids, the ids still to come are new, and the current
row restores what is in force. -/
structure StoredRule.WellVersioned (r : StoredRule) : Prop where
  nodup : (r.contents.map VersionContent.id).Nodup
  numbered : ∀ c ∈ r.contents, ∃ n ≤ c.number, c.id = versionId n
  current : ∀ c ∈ r.contents.head?, ∀ v ∈ c.restores, r.versioned = v

/-- A call keeps the rows and what is in force, or puts a new row on top that restores it. -/
inductive VersionStep (r r' : StoredRule) : Prop
  | same : r'.contents = r.contents → r'.versioned = r.versioned → VersionStep r r'
  | added {row : VersionRow} : r'.versions = row :: r.versions →
      row.id = versionId (nextVersionNumber r.versions) →
      row.versionNumber = nextVersionNumber r.versions →
      (∀ v ∈ row.content.restores, r'.versioned = v) → VersionStep r r'

variable {r r' : StoredRule}

theorem StoredRule.number_lt_next {c : VersionContent} (h : c ∈ r.contents) :
    c.number < nextVersionNumber r.versions := by
  obtain ⟨row, hrow, rfl⟩ := List.mem_map.mp h
  exact versionNumber_lt_next hrow

theorem VersionStep.suffix (h : VersionStep r r') : r.contents <:+ r'.contents := by
  cases h with
  | same hcontents _ =>
    rw [hcontents]
  | added hversions _ _ _ =>
    rw [StoredRule.contents, StoredRule.contents, hversions]
    exact List.suffix_cons _ _

theorem StoredRule.WellVersioned.step (hr : r.WellVersioned) (h : VersionStep r r') :
    r'.WellVersioned := by
  cases h with
  | same hcontents hversioned =>
    constructor
    · rw [hcontents]
      exact hr.nodup
    · rw [hcontents]
      exact hr.numbered
    · rw [hcontents, hversioned]
      exact hr.current
  | @added row hversions hid hnumber hcurrent =>
    have hcontents : r'.contents = row.content :: r.contents := by
      rw [contents, hversions, List.map_cons, ← contents]
    constructor
    · rw [hcontents, List.map_cons]
      refine List.nodup_cons.mpr ⟨?_, hr.nodup⟩
      intro hmem
      obtain ⟨c, hc, hcid⟩ := List.mem_map.mp hmem
      obtain ⟨n, hn, hidn⟩ := hr.numbered c hc
      have hnext : n = nextVersionNumber r.versions := by
        apply versionId_injective
        rw [← hidn, hcid, ← hid]
        rfl
      have := number_lt_next hc
      omega
    · rw [hcontents]
      intro c hc
      rcases List.mem_cons.mp hc with rfl | hc
      · exact ⟨_, hnumber.ge, hid⟩
      · exact hr.numbered c hc
    · rw [hcontents]
      rintro c ⟨⟩
      exact hcurrent

namespace InMemory

section Methods

variable [PyRuntime] {overrides : PolicyOverrides} {repo repo' : Repository} {op : Operation}
  {ruleId : Text} {now : Instant}

omit [PyRuntime] in
/-- The row that a rollback restores. -/
theorem of_rollbackTarget {toVersionId : Text} {snapshot : RuleSnapshot}
    (h : rollbackTarget? ruleId toVersionId r = some snapshot) :
    ∃ c ∈ r.contents, c.id = toVersionId ∧ c.restores = some snapshot.versioned := by
  rw [rollbackTarget?, rollbackVersions] at h
  cases hversions : r.versions with
  | nil =>
    rw [hversions] at h
    cases h
  | cons current rows =>
    simp only [hversions] at h
    split at h
    · cases h
    · rename_i first target htarget
      obtain ⟨_, _, hfound⟩ := ok_of_bind htarget
      obtain ⟨found, hfound, hpair⟩ := ok_of_bind hfound
      cases hpair
      obtain ⟨description, hdescription, rfl⟩ := Option.map_eq_some_iff.mp h
      have hrow := eq_some_of_orRaise hfound
      refine ⟨target.content, ?_, ?_, ?_⟩
      · rw [StoredRule.contents, hversions]
        exact List.mem_map_of_mem (List.mem_of_find?_eq_some hrow)
      · have hid := List.find?_some hrow
        exact of_decide_eq_true hid
      · show target.rule.description.map _ = _
        rw [hdescription]
        rfl

theorem versionStep_updated {fields : RuleFields}
    (h : updatedRule overrides now fields r = .ok (some r')) : VersionStep r r' := by
  rw [updatedRule] at h
  obtain ⟨_, _, hstore⟩ := ok_of_bind h
  cases hstore
  refine .added rfl rfl rfl ?_
  rintro v ⟨⟩
  rfl

theorem versionStep_activated (h : activatedRule overrides now r = .ok (some r')) :
    VersionStep r r' := by
  rw [activatedRule] at h
  obtain ⟨_, _, hstore⟩ := ok_of_bind h
  cases hstore
  exact .same rfl rfl

theorem versionStep_deactivated (h : deactivatedRule overrides now r = .ok (some r')) :
    VersionStep r r' := by
  rw [deactivatedRule] at h
  obtain ⟨_, _, hstore⟩ := ok_of_bind h
  cases hstore
  exact .same rfl rfl

theorem versionStep_softDeleted {removedBy : Text}
    (h : softDeletedRule overrides now removedBy r = .ok (some r')) : VersionStep r r' := by
  rw [softDeletedRule] at h
  obtain ⟨_, _, h⟩ := ok_of_bind h
  obtain ⟨_, _, h⟩ := ok_of_bind h
  obtain ⟨_, _, h⟩ := ok_of_bind h
  obtain ⟨_, _, hstore⟩ := ok_of_bind h
  cases hstore
  exact .same rfl rfl

theorem versionStep_recovered {recoveredBy : Text}
    (h : recoveredRule overrides now recoveredBy r = .ok (some r')) : VersionStep r r' := by
  rw [recoveredRule] at h
  obtain ⟨_, _, h⟩ := ok_of_bind h
  obtain ⟨_, _, hstore⟩ := ok_of_bind h
  cases hstore
  exact .same rfl rfl

/-- The lifecycle status in the snapshot of the current version is no part of what it restores. -/
theorem versionStep_lifecycle {lifecycleStatus : Text} {changedBy reason : Option Text}
    (h : lifecycleRule overrides now lifecycleStatus changedBy reason r = .ok (some r')) :
    VersionStep r r' := by
  rw [lifecycleRule] at h
  split at h
  · cases h
  obtain ⟨_, _, h⟩ := ok_of_bind h
  obtain ⟨_, _, h⟩ := ok_of_bind h
  obtain ⟨_, _, hstore⟩ := ok_of_bind h
  cases hstore
  refine .same ?_ rfl
  rw [StoredRule.contents, StoredRule.contents, StoredRule.recordTransition_versions]
  split
  · rename_i hversions
    rw [hversions]
  · rename_i row rows hversions
    rw [hversions]
    rfl

theorem versionStep_transitioned {fromStatus : Option Text} {toStatus : Text}
    {changedBy reason : Option Text}
    (h : transitionedRule overrides now fromStatus toStatus changedBy reason r = .ok r') :
    VersionStep r r' := by
  rw [transitionedRule] at h
  obtain ⟨_, _, hstore⟩ := ok_of_bind h
  cases hstore
  refine .same ?_ ?_
  · show List.map _ (StoredRule.versions (if _ then _ else _)) = _
    split <;> rfl
  · show StoredRule.versioned (if _ then _ else _) = _
    split <;> rfl

omit [PyRuntime] in
/-- A rollback puts a row on top, also where it raises for a missing description. -/
theorem versionStep_rolledBack {toVersionId actorId reason : Text} {skipApproval : Bool}
    {tags : Option (List Text)} :
    VersionStep r
      (rolledBackRule now ruleId toVersionId actorId reason skipApproval tags r).2 := by
  rw [rolledBackRule]
  split
  · exact .same rfl rfl
  · rename_i current target _
    split
    · rename_i hdescription
      refine .added rfl rfl rfl ?_
      intro v hv
      replace hv : v ∈ target.rule.description.map fun _ => target.rule.versioned := hv
      rw [hdescription] at hv
      cases hv
    · rename_i description hdescription
      refine .added rfl rfl rfl ?_
      intro v hv
      replace hv : v ∈ target.rule.description.map fun _ => target.rule.versioned := hv
      rw [hdescription] at hv
      cases hv
      rfl

omit [PyRuntime] in
theorem contents_of_core {versions : List VersionRow}
    (h : versions.map VersionRow.core = r.versions.map VersionRow.core) :
    versions.map VersionRow.content = r.contents := by
  have hcontent : VersionRow.content = (fun c : Text × ℕ × RuleSnapshot =>
      (⟨c.1, c.2.1, c.2.2.description.map fun _ => c.2.2.versioned⟩ : VersionContent)) ∘
        VersionRow.core := rfl
  rw [StoredRule.contents, hcontent, ← List.map_map, h, List.map_map]

theorem Changed.versionStep (h : Changed overrides repo op ruleId r r') : VersionStep r r' := by
  cases h with
  | update hchange => exact versionStep_updated hchange
  | activate hchange => exact versionStep_activated hchange
  | deactivate hchange => exact versionStep_deactivated hchange
  | softDelete hchange => exact versionStep_softDeleted hchange
  | recover hchange => exact versionStep_recovered hchange
  | setLifecycleStatus hchange => exact versionStep_lifecycle hchange
  | rollback => exact versionStep_rolledBack
  | version _ hcore => exact .same (contents_of_core hcore) rfl
  | recordAuditEvent => exact .same rfl rfl
  | recordStatusTransition hchange => exact versionStep_transitioned hchange

/-- The first version of a rule restores it, and a template has no version. -/
theorem Born.wellVersioned (h : Born repo op ruleId r') : r'.WellVersioned := by
  cases h with
  | create _ now origin fields =>
    constructor
    · exact List.nodup_singleton _
    · intro c hc
      rw [List.mem_singleton.mp hc]
      exact ⟨1, le_rfl, rfl⟩
    · rintro c ⟨⟩ v ⟨⟩
      rfl
  | template =>
    constructor
    · exact List.nodup_nil
    · intro c hc
      cases hc
    · intro c hc
      cases hc

/-- The rows of all rules are told apart by their ids, and the current ones restore what is in
force. The constructor's rule is such a rule. -/
def WellVersioned (repo : Repository) : Prop :=
  ∀ ruleId r, repo.find? ruleId = some r → r.WellVersioned

theorem step_wellVersioned (h : WellVersioned repo) (hstep : Step overrides repo op repo') :
    WellVersioned repo' := by
  intro ruleId r' hr'
  obtain ⟨-, hborn⟩ | ⟨r, hr, rfl | hchanged⟩ := step_entry hstep hr'
  · exact hborn.wellVersioned
  · exact h ruleId r' hr
  · exact (h ruleId r hr).step hchanged.versionStep

/-- The rows of a rule stay what they are, below the rows of later calls. -/
theorem step_contents (hstep : Step overrides repo op repo') (h : repo.find? ruleId = some r) :
    ∃ r', repo'.find? ruleId = some r' ∧ r.contents <:+ r'.contents := by
  obtain ⟨r', hr', rfl | hchanged⟩ := step_find hstep h
  · exact ⟨r', hr', List.suffix_refl _⟩
  · exact ⟨r', hr', hchanged.versionStep.suffix⟩

variable {meets : Repository → Operation → Prop} {start : Repository} {events : List Operation}

theorem runs_wellVersioned (hstart : WellVersioned start)
    (hruns : Runs (Step overrides) meets start events repo) : WellVersioned repo :=
  hruns.invariant hstart fun _ _ _ h hstep _ => step_wellVersioned h hstep

theorem runs_contents (hstart : start.find? ruleId = some r)
    (hruns : Runs (Step overrides) meets start events repo) :
    ∃ r', repo.find? ruleId = some r' ∧ r.contents <:+ r'.contents := by
  refine hruns.invariant (I := fun s => ∃ r', s.find? ruleId = some r' ∧
    r.contents <:+ r'.contents) ⟨r, hstart, List.suffix_refl _⟩ ?_
  rintro s e s' ⟨q, hq, hsuffix⟩ hstep -
  obtain ⟨q', hq', hsuffix'⟩ := step_contents hstep hq
  exact ⟨q', hq', hsuffix.trans hsuffix'⟩

omit [PyRuntime] in
/-- A rollback that returns has restored the row of its target version, and nothing else of the
definition. -/
theorem of_executeRuleRollback {toVersionId reason : Text} {requestedByUserId : Option Text}
    {skipApproval : Bool} {tags : Option (List Text)} {receipt : RollbackReceipt}
    (hfind : repo.find? ruleId = some r)
    (h : executeRuleRollback ruleId now toVersionId reason requestedByUserId skipApproval tags repo =
      (.ok (some receipt), repo')) :
    ∃ r', repo'.find? ruleId = some r' ∧ r'.unversioned = r.unversioned ∧
      ∃ c ∈ r.contents, c.id = toVersionId ∧ c.restores = some r'.versioned := by
  rw [executeRuleRollback, hfind] at h
  obtain ⟨hresult, hrepo⟩ := Prod.mk.inj h
  cases htarget : rollbackTarget? ruleId toVersionId r with
  | none =>
    obtain ⟨e, herror, -, -⟩ := rolledBackRule_of_none now
      (repo.actor (requester requestedByUserId)) reason skipApproval tags htarget
    rw [herror] at hresult
    cases hresult
  | some snapshot =>
    obtain ⟨current, target, description, receipt', -, -, hrolled⟩ := rolledBackRule_of_some now
      (repo.actor (requester requestedByUserId)) reason skipApproval tags htarget
    rw [hrolled] at hrepo
    subst hrepo
    exact ⟨_, Repository.find?_put_self _ _ _, rfl, of_rollbackTarget htarget⟩

/-- The definition after a rollback is the one that was in force with the target version exactly
where the part that no version row keeps is what it was then. -/
theorem rollback_restores_iff (overrides : PolicyOverrides) (start mid repo repo' : Repository)
    (before after : List Operation) (ruleId toVersionId reason : Text) (now : Instant)
    (requestedByUserId : Option Text) (skipApproval : Bool) (tags : Option (List Text))
    (receipt : RollbackReceipt) (r q : StoredRule) (hstart : WellVersioned start)
    (hbefore : Runs (Step overrides) (fun _ _ => True) start before mid)
    (hr : mid.find? ruleId = some r) (hcurrent : r.currentVersionId = some toVersionId)
    (hafter : Runs (Step overrides) (fun _ _ => True) mid after repo)
    (hq : repo.find? ruleId = some q)
    (hrollback : executeRuleRollback ruleId now toVersionId reason requestedByUserId skipApproval
      tags repo = (.ok (some receipt), repo')) :
    ∃ q', repo'.find? ruleId = some q' ∧
      (q'.definition = r.definition ↔ q.unversioned = r.unversioned) := by
  have hmid : WellVersioned mid := runs_wellVersioned hstart hbefore
  obtain ⟨q₀, hq₀, hsuffix⟩ := runs_contents hr hafter
  rw [hq] at hq₀
  cases hq₀
  obtain ⟨q', hq', hunversioned, c, hc, hid, hrestores⟩ := of_executeRuleRollback hq hrollback
  -- the row of the target version is still the one that was current then
  obtain ⟨row, hrow, hrowId⟩ := Option.map_eq_some_iff.mp hcurrent
  have hhead : row.content ∈ r.contents.head? := by
    rw [StoredRule.contents, List.head?_map, hrow]
    rfl
  have hsame : row.content = c := by
    have hnodup := (runs_wellVersioned hmid hafter ruleId q hq).nodup
    have hmem : row.content ∈ q.contents := hsuffix.subset (List.mem_of_head? hhead)
    exact List.inj_on_of_nodup_map hnodup hmem hc (hrowId.trans hid.symm)
  have hversioned : q'.versioned = r.versioned := by
    rw [← hsame] at hrestores
    exact ((hmid ruleId r hr).current row.content hhead q'.versioned hrestores).symm
  refine ⟨q', hq', ?_⟩
  rw [StoredRule.definition, StoredRule.definition, hversioned, hunversioned]
  constructor
  · intro h
    exact (Definition.mk.inj h).2
  · intro h
    rw [h]

end Methods

section Sample

local instance sampleRuntimeRollback : PyRuntime := sampleRuntimeActivation

def sampleEdit (expression : String) (reusableFilterIds : List Text) : Operation :=
  .update "r" 5 { sampleFields false with
    expression := expression.toList
    reusableFilterIds := reusableFilterIds }

def sampleRollback (edit : Operation) :
    Except RepositoryError (Option RollbackReceipt) × Repository :=
  executeRuleRollback "r" 6 "rv-001" "as it was" none false none
    (sampleRepository [edit])

/-- What the rollback returns after any edit. -/
def sampleReceipt : RollbackReceipt where
  id := "rb-003"
  fromVersion := ("rv-002", 2)
  toVersion := ("rv-001", 1)
  newVersion := ("rv-003", 3)
  newVersionStatus := "pending_approval"

theorem wellVersioned_empty (users : List Text) (h : "user-admin".toList ∈ users) :
    WellVersioned ⟨[], users, h⟩ := by
  intro ruleId r hr
  cases hr

theorem runs_sampleEdit (edit : Operation) (hedit : edit.newId? = none) :
    Runs (Step noOverrides) (fun _ _ => True) (sampleRepository []) [edit]
      (sampleRepository [edit]) := by
  refine runs_of_calls ?_ (fun _ _ _ => trivial) _
  intro op hop
  rw [List.mem_singleton.mp hop]
  exact hedit

/-- An edit of the expression alone is undone. -/
theorem rollback_restores_expression :
    ∃ r q', (sampleRepository []).find? "r" = some r ∧
      (sampleRollback (sampleEdit "phone IS NOT NULL" [])).2.find? "r" = some q' ∧
      q'.definition = r.definition := by
  obtain ⟨q, hq⟩ : ∃ q, (sampleRepository [sampleEdit "phone IS NOT NULL" []]).find?
      "r" = some q := Option.isSome_iff_exists.mp (by decide +kernel)
  have hunversioned : q.unversioned = ⟨[], [], []⟩ := by
    have hkept : ((sampleRepository [sampleEdit "phone IS NOT NULL" []]).find?
        "r").map StoredRule.unversioned = some ⟨[], [], []⟩ := rfl
    rw [hq] at hkept
    exact Option.some.inj hkept
  have hrollback : sampleRollback (sampleEdit "phone IS NOT NULL" []) =
      (.ok (some sampleReceipt), (sampleRollback (sampleEdit "phone IS NOT NULL" [])).2) :=
    Prod.ext (by decide +kernel) rfl
  obtain ⟨q', hq', hiff⟩ := rollback_restores_iff noOverrides _ _ _ _ _ _ _ _ _ _ _ _ _ _ _ _
    (wellVersioned_empty _ List.mem_cons_self)
    (runs_sampleRepository (by decide) (fun _ => trivial) (fun _ _ _ => trivial))
    rfl rfl (runs_sampleEdit _ rfl) hq hrollback
  exact ⟨_, q', rfl, hq', hiff.mpr hunversioned⟩

/-- An edit of the reusable filters is not undone. -/
theorem rollback_keeps_filters :
    ¬ ∀ (overrides : PolicyOverrides) (start mid repo repo' : Repository)
      (before after : List Operation) (ruleId toVersionId reason : Text) (now : Instant)
      (requestedByUserId : Option Text) (skipApproval : Bool) (tags : Option (List Text))
      (receipt : RollbackReceipt) (r : StoredRule), WellVersioned start →
      Runs (Step overrides) (fun _ _ => True) start before mid →
      mid.find? ruleId = some r → r.currentVersionId = some toVersionId →
      Runs (Step overrides) (fun _ _ => True) mid after repo →
      executeRuleRollback ruleId now toVersionId reason requestedByUserId skipApproval tags repo =
        (.ok (some receipt), repo') →
      ∃ q', repo'.find? ruleId = some q' ∧ q'.definition = r.definition := by
  intro h
  have hrollback : sampleRollback (sampleEdit "email IS NOT NULL" ["f".toList]) =
      (.ok (some sampleReceipt),
        (sampleRollback (sampleEdit "email IS NOT NULL" ["f".toList])).2) :=
    Prod.ext (by decide +kernel) rfl
  obtain ⟨q', hq', hdefinition⟩ := h noOverrides _ _ _ _ _ _ _ _ _ _ _ _ _ _ _
    (wellVersioned_empty _ List.mem_cons_self)
    (runs_sampleRepository (by decide) (fun _ => trivial) (fun _ _ _ => trivial))
    rfl rfl (runs_sampleEdit _ rfl) hrollback
  have hfilters : ((sampleRollback (sampleEdit "email IS NOT NULL" ["f".toList])).2.find?
      "r".toList).map (fun q => q.unversioned.reusableFilterIds) = some ["f".toList] := by
    decide +kernel
  rw [hq'] at hfilters
  have hnone : q'.unversioned.reusableFilterIds = [] := by
    have hunversioned := (Definition.mk.inj hdefinition).2
    rw [hunversioned]
    rfl
  rw [Option.map_some, hnone] at hfilters
  exact absurd hfilters (by decide)

end Sample

end InMemory

end Lifecycle

end DqMadeEasy
